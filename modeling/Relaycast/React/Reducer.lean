import Relaycast.Script.Dict
import Relaycast.Script.Json

/-!
# The store of the client and its reducer

The store caches what was fetched of a workspace: the messages of channels, threads with their
parent and replies, the channel list with its member counts, the members of channels, and the
agents. `handleServerEvent` keeps it up to date with the events of the socket.  A message can be
cached in several places, and each event reaches all of them by code of its own.

The handlers are functions of the store, the event, and the time; one that reads a dictionary under
a name that object literals inherit throws before it has written anything.
-/

namespace React

open Script

/-! ## The store -/

structure ReactionGroup where
  emoji : String
  count : ℕ
  agents : List String
  deriving DecidableEq

/-- `MessageWithMeta`; the reply count is `none` where the server sent no number. -/
structure Message where
  id : String
  agentName : String
  channelId : String
  agentId : String
  text : String
  hasAttachments : Bool
  threadId : Option String
  attachments : List Json
  metadata : Option Json
  createdAt : String
  replyCount : Option ℕ
  reactions : List ReactionGroup
  readByCount : ℕ
  deriving DecidableEq

structure ChannelMessages where
  messages : List Message
  loading : Bool
  error : Option String

structure ThreadData where
  parent : Option Message
  replies : List Message
  loading : Bool
  error : Option String

structure Channel where
  id : String
  name : String
  topic : Option String
  createdAt : String
  isArchived : Bool
  memberCount : Option ℕ
  deriving DecidableEq

/-- `ChannelMemberInfo`. -/
structure Member where
  agentId : String
  agentName : String
  role : String
  joinedAt : String
  deriving DecidableEq

structure ChannelDetail where
  channel : Option Channel
  members : List Member
  loading : Bool
  error : Option String

structure Agent where
  id : String
  name : String
  status : String
  createdAt : String
  lastSeen : String
  deriving DecidableEq

/-- `StoreState`, without the inbox and the connection status. -/
structure StoreState where
  channelMessages : Dict ChannelMessages
  threads : Dict ThreadData
  channels : List Channel
  channelDetails : Dict ChannelDetail
  agents : List Agent
  dmsLoading : Bool

def DEFAULT_CHANNEL_MESSAGES : ChannelMessages := ⟨[], false, none⟩
def DEFAULT_THREAD : ThreadData := ⟨none, [], false, none⟩
def DEFAULT_CHANNEL_DETAIL : ChannelDetail := ⟨none, [], false, none⟩

/-- `{ ...d, [key]: updater(d[key] ?? default) }`.  An inherited name reads as something the updater
cannot use. -/
def updateKey {V : Type} (d : Dict V) (key : String) (default : V) (updater : V → V) :
    Option (Dict V) :=
  match d.get? key with
  | some v => some (d.set key (updater v))
  | none => if key ∈ objectPrototype then none else some (d.set key (updater default))

namespace StoreState

variable (s : StoreState)

def updateChannelMessages (channel : String) (updater : ChannelMessages → ChannelMessages) :
    Option StoreState :=
  (updateKey s.channelMessages channel DEFAULT_CHANNEL_MESSAGES updater).map fun d =>
    { s with channelMessages := d }

def updateThread (messageId : String) (updater : ThreadData → ThreadData) : Option StoreState :=
  (updateKey s.threads messageId DEFAULT_THREAD updater).map fun d => { s with threads := d }

def updateChannelDetail (name : String) (updater : ChannelDetail → ChannelDetail) :
    Option StoreState :=
  (updateKey s.channelDetails name DEFAULT_CHANNEL_DETAIL updater).map fun d =>
    { s with channelDetails := d }

end StoreState

/-! ## Events -/

/-- `CoreMessagePayload`. -/
structure Payload where
  id : String
  agentName : String
  agentId : Option String
  text : String
  attachments : Option (List Json)
  metadata : Option Json
  deriving DecidableEq

inductive ReactionAction
  | added
  | removed
  deriving DecidableEq

/-- `WsClientEvent`; an event the reducer does not know is `other`. -/
inductive Event
  | messageCreated (channel : String) (message : Payload) (createdAt : Option String)
  | messageUpdated (channel messageId text : String)
  | threadReply (parentId : String) (message : Payload)
  | messageReacted (messageId emoji agentName : String) (action : Option ReactionAction)
  | agentStatus (status agentName : String)
  | channelCreated (name : String) (topic : Option String)
  | channelUpdated (name : String) (topic : Option String)
  | channelArchived (name : String)
  | memberJoined (channel agentName : String)
  | memberLeft (channel agentName : String)
  | dmReceived
  | other
  deriving DecidableEq

/-! ## Handlers -/

/-- The first entry with `p` replaced: `findIndex`, and a copy with that index replaced. -/
def replaceFirst {α : Type} (p : α → Bool) (f : α → α) : List α → List α
  | [] => []
  | x :: xs => if p x then f x :: xs else x :: replaceFirst p f xs

/-- The message a `message.created` event appends. -/
def createdMessage (now channel : String) (p : Payload) (createdAt : Option String) : Message where
  id := p.id
  agentName := p.agentName
  channelId := channel
  agentId := p.agentId.getD ""
  text := p.text
  hasAttachments := decide (0 < (p.attachments.getD []).length)
  threadId := none
  attachments := p.attachments.getD []
  metadata := p.metadata
  createdAt := createdAt.getD now
  replyCount := some 0
  reactions := []
  readByCount := 0

def handleMessageCreated (now : String) (s : StoreState) (channel : String) (p : Payload)
    (createdAt : Option String) : Option StoreState :=
  s.updateChannelMessages channel fun prev =>
    if prev.messages.any (·.id == p.id) then prev
    else { prev with messages := prev.messages ++ [createdMessage now channel p createdAt] }

def handleMessageUpdated (s : StoreState) (channel messageId text : String) : Option StoreState :=
  s.updateChannelMessages channel fun prev =>
    let updated := replaceFirst (·.id == messageId) (fun m => { m with text := text }) prev.messages
    { prev with messages := updated }

/-- The reply a `thread.reply` event appends. -/
def threadReply (now parentId : String) (prev : ThreadData) (p : Payload) : Message where
  id := p.id
  agentName := p.agentName
  channelId := (prev.parent.map (·.channelId)).getD ""
  agentId := p.agentId.getD ""
  text := p.text
  hasAttachments := false
  threadId := some parentId
  attachments := []
  metadata := none
  createdAt := now
  replyCount := some 0
  reactions := []
  readByCount := 0

/-- Is the reply in the thread already? -/
def ThreadData.hasReply (t : ThreadData) (messageId : String) : Bool :=
  t.replies.any (·.id == messageId)

/-- `replyCount + 1` of a thread's parent. -/
def countReply (m : Message) : Message := { m with replyCount := m.replyCount.map (· + 1) }

/-- `replyCount + 1` in a channel, from zero where there is no number. -/
def countReplyInChannel (m : Message) : Message :=
  { m with replyCount := some ((m.replyCount.map (· + 1)).getD 1) }

/-- The channel whose timeline holds the message: the first one, in the order of the keys. -/
def StoreState.channelOf (s : StoreState) (messageId : String) : Option String :=
  s.channelMessages.keys.find? fun channel =>
    (s.channelMessages.get? channel).any fun c => c.messages.any (·.id == messageId)

def handleThreadReply (now : String) (s : StoreState) (parentId : String) (p : Payload) :
    Option StoreState := do
  let inserted := !((s.threads.get? parentId).getD DEFAULT_THREAD).hasReply p.id
  let s ← s.updateThread parentId fun prev =>
    if prev.hasReply p.id then prev
    else { prev with replies := prev.replies ++ [threadReply now parentId prev p] }
  if !inserted then pure s
  else
    let s ← s.updateThread parentId fun prev => { prev with parent := prev.parent.map countReply }
    match s.channelOf parentId with
    | none => pure s
    | some channel => s.updateChannelMessages channel fun prev =>
      { prev with messages := replaceFirst (·.id == parentId) countReplyInChannel prev.messages }

/-- The reactions after an addition. -/
def addReaction (emoji agentName : String) (reactions : List ReactionGroup) :
    List ReactionGroup :=
  match reactions.find? (·.emoji == emoji) with
  | some existing =>
    if existing.agents.contains agentName then reactions
    else reactions.map fun r =>
      if r.emoji = emoji then { r with count := r.count + 1, agents := r.agents ++ [agentName] }
      else r
  | none => reactions ++ [⟨emoji, 1, [agentName]⟩]

/-- The reactions after a removal. -/
def removeReaction (emoji agentName : String) (reactions : List ReactionGroup) :
    List ReactionGroup :=
  (reactions.map fun r =>
    if r.emoji = emoji then
      { r with count := r.count - 1, agents := r.agents.filter (· != agentName) }
    else r).filter fun r => decide (0 < r.count)

/-- A message with other reactions. -/
def Message.react (f : List ReactionGroup → List ReactionGroup) (m : Message) : Message :=
  { m with reactions := f m.reactions }

/-- `updateReactionsOnMessage`. -/
def updateReactionsOnMessage (messages : List Message) (messageId : String)
    (updater : List ReactionGroup → List ReactionGroup) : Option (List Message) :=
  if messages.any (·.id == messageId) then
    some (replaceFirst (·.id == messageId) (Message.react updater) messages)
  else none

/-- The reactions of a message in a channel. -/
def ChannelMessages.react (messageId : String) (updater : List ReactionGroup → List ReactionGroup)
    (c : ChannelMessages) : ChannelMessages :=
  match updateReactionsOnMessage c.messages messageId updater with
  | some updated => { c with messages := updated }
  | none => c

/-- The reactions of a message in a thread: of a reply, or else of the parent. -/
def ThreadData.react (messageId : String) (updater : List ReactionGroup → List ReactionGroup)
    (t : ThreadData) : ThreadData :=
  match updateReactionsOnMessage t.replies messageId updater with
  | some updatedReplies => { t with replies := updatedReplies }
  | none =>
    match t.parent with
    | some parent =>
      if parent.id = messageId then { t with parent := some (parent.react updater) } else t
    | none => t

/-- The two loops of a reaction, over the channels and over the threads. -/
def handleReaction (s : StoreState) (messageId : String)
    (updater : List ReactionGroup → List ReactionGroup) : StoreState :=
  { s with
    channelMessages := s.channelMessages.mapValues (ChannelMessages.react messageId updater)
    threads := s.threads.mapValues (ThreadData.react messageId updater) }

def handleReactionAdded (s : StoreState) (messageId emoji agentName : String) : StoreState :=
  handleReaction s messageId (addReaction emoji agentName)

def handleReactionRemoved (s : StoreState) (messageId emoji agentName : String) : StoreState :=
  handleReaction s messageId (removeReaction emoji agentName)

def handleMessageReacted (s : StoreState) (messageId emoji agentName : String)
    (action : Option ReactionAction) : StoreState :=
  if action = some .removed then handleReactionRemoved s messageId emoji agentName
  else handleReactionAdded s messageId emoji agentName

def handlePresenceChange (now : String) (s : StoreState) (status agentName : String) :
    StoreState :=
  let newStatus := if status = "active" then "online" else status
  if s.agents.any (·.name == agentName) then
    { s with agents := s.agents.map fun a =>
        if a.name = agentName then { a with status := newStatus } else a }
  else if status = "active" then
    { s with agents := s.agents ++ [⟨"", agentName, "online", now, now⟩] }
  else s

def handleChannelCreated (now : String) (s : StoreState) (name : String) (topic : Option String) :
    StoreState :=
  if s.channels.any (·.name == name) then s
  else { s with channels := s.channels ++ [⟨"", name, topic, now, false, some 1⟩] }

/-- The channels of a name, changed. -/
def StoreState.updateChannels (s : StoreState) (name : String) (f : Channel → Channel) :
    StoreState :=
  { s with channels := s.channels.map fun c => if c.name = name then f c else c }

def handleChannelUpdated (s : StoreState) (name : String) (topic : Option String) : StoreState :=
  s.updateChannels name fun c => { c with topic := topic }

def handleChannelArchived (s : StoreState) (name : String) : StoreState :=
  s.updateChannels name fun c => { c with isArchived := true }

def handleMemberJoined (now : String) (s : StoreState) (channel agentName : String) :
    Option StoreState := do
  let s ← s.updateChannelDetail channel fun prev =>
    if prev.members.any (·.agentName == agentName) then prev
    else { prev with members := prev.members ++ [⟨"", agentName, "member", now⟩] }
  pure (s.updateChannels channel fun c => { c with memberCount := some (c.memberCount.getD 0 + 1) })

def handleMemberLeft (s : StoreState) (channel agentName : String) : Option StoreState := do
  let s ← s.updateChannelDetail channel fun prev =>
    { prev with members := prev.members.filter (·.agentName != agentName) }
  pure (s.updateChannels channel fun c => { c with memberCount := some (c.memberCount.getD 1 - 1) })

def handleDmReceived (s : StoreState) : StoreState := { s with dmsLoading := true }

/-- `handleServerEvent`, at a time; none if it throws. -/
def handleServerEvent (now : String) (s : StoreState) : Event → Option StoreState
  | .messageCreated channel message createdAt => handleMessageCreated now s channel message createdAt
  | .messageUpdated channel messageId text => handleMessageUpdated s channel messageId text
  | .threadReply parentId message => handleThreadReply now s parentId message
  | .messageReacted messageId emoji agentName action =>
    some (handleMessageReacted s messageId emoji agentName action)
  | .agentStatus status agentName => some (handlePresenceChange now s status agentName)
  | .channelCreated name topic => some (handleChannelCreated now s name topic)
  | .channelUpdated name topic => some (handleChannelUpdated s name topic)
  | .channelArchived name => some (handleChannelArchived s name)
  | .memberJoined channel agentName => handleMemberJoined now s channel agentName
  | .memberLeft channel agentName => handleMemberLeft s channel agentName
  | .dmReceived => some (handleDmReceived s)
  | .other => some s

/-- The store after an event, at the time it was handled; a handler that throws has written
nothing. -/
def StoreState.after (s : StoreState) (e : String × Event) : StoreState :=
  (handleServerEvent e.1 s e.2).getD s

end React
