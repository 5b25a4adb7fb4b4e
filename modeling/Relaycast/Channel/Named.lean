import Mathlib.Data.List.Sort
import Relaycast.Dm.Conversation
import Relaycast.Relational.Timestamp
import Relaycast.Script.Value

/-!
# Operations on named channels

The operations that take the name of a channel: reading it and its messages, posting, joining,
inviting, updating and archiving.  Each of them looks the name up among all channels of the
workspace, where the channels of direct messages stand beside the ordinary ones; reading goes
through a cache of channels by name.

The tables are those of one workspace, and an operation is one step.
-/

namespace Channel

open Relational Script

/-! ## Tables -/

/-- A row of `channels`. -/
structure Row where
  id : String
  name : String
  channelType : ℕ
  topic : Option String
  metadata : Record
  createdAt : Millis
  isArchived : Bool

instance : Keyed Row where
  Key := String × String
  key c := (c.id, c.name)
  clash k k' := k.1 == k'.1 || k.2 == k'.2
  clash_comm k k' := by rw [BEq.comm (a := k.1), BEq.comm (a := k.2)]

/-- A row of `channel_members`. -/
structure Member where
  channelId : String
  agentId : String
  role : String
  joinedAt : Millis
  isMuted : Bool

instance : Keyed Member where
  Key := String × String
  key m := (m.channelId, m.agentId)
  clash k k' := k == k'
  clash_comm := texts_clash_comm

/-- A row of `agents`. -/
structure Agent where
  id : String
  name : String
  released : Bool

instance : Keyed Agent where
  Key := String × String
  key a := (a.id, a.name)
  clash k k' := k.1 == k'.1 || k.2 == k'.2
  clash_comm k k' := by rw [BEq.comm (a := k.1), BEq.comm (a := k.2)]

/-- A row of `messages`. -/
structure Message where
  id : String
  channelId : String
  agentId : String
  threadId : Option String
  body : String

instance : Keyed Message where
  Key := String
  key m := m.id
  clash k k' := k == k'
  clash_comm := text_clash_comm

/-- A member as a read of the channel shows it. -/
structure MemberView where
  agentId : String
  agentName : String
  role : String
  joinedAt : Millis
  isMuted : Bool

/-- A channel as a read shows it, and as the cache keeps it. -/
structure View where
  id : String
  name : String
  topic : Option String
  metadata : Record
  members : List MemberView
  createdAt : Millis
  isArchived : Bool

/-- An entry of the cache. -/
structure CacheEntry where
  name : String
  data : View
  expiresAt : Millis

/-- The tables of a workspace, and the cache in front of them. -/
structure Store where
  channels : Table Row
  members : Table Member
  agents : Table Agent
  messages : Table Message
  conversations : Table Dm.Conversation
  participants : Table Dm.Participant
  cache : List CacheEntry

/-- What an operation throws. -/
structure CodedError where
  message : String
  code : String
  status : ℕ
  deriving DecidableEq

/-- What an operation returns. -/
inductive Reply
  | channel (view : View)
  | messages (page : List Message)
  | message (m : Message)
  | joined (channel agentId : String) (alreadyMember : Bool)
  | invited (channel agent : String)
  | updated (row : Row)
  | archived (channel : String)

/-- The tables after an operation, and its reply. -/
abbrev Outcome := Store × Except CodedError Reply

/-- `SUBSCRIPTION_CHANNEL_PREFIX`. -/
def subscriptionChannelPrefix : String := "agent-events-"

/-- `name.startsWith(SUBSCRIPTION_CHANNEL_PREFIX)`. -/
def isSubscriptionChannel (name : String) : Bool :=
  subscriptionChannelPrefix.toList.isPrefixOf name.toList

/-- `DEFAULT_TTL` of the cache. -/
def defaultTtl : Millis := 60000

def channelNotFound (name : String) : CodedError :=
  ⟨"Channel \"" ++ name ++ "\" not found", "channel_not_found", 404⟩

namespace Store

variable (s : Store)

/-! ## The cache -/

/-- `getCachedChannel`, without dropping what has expired. -/
def cached? (now : Millis) (name : String) : Option View :=
  match s.cache.find? (·.name == name) with
  | some entry => if now > entry.expiresAt then none else some entry.data
  | none => none

def setCachedChannel (now : Millis) (name : String) (data : View) : Store :=
  { s with cache := ⟨name, data, now + defaultTtl⟩ :: s.cache.filter (·.name != name) }

def invalidateChannelCache (name : String) : Store :=
  { s with cache := s.cache.filter (·.name != name) }

/-! ## Lookups -/

/-- `SELECT … FROM channels WHERE name = ?`. -/
def channel? (name : String) : Option Row := s.channels.rows.find? (·.name == name)

/-- `SELECT … FROM agents WHERE id = ?`. -/
def agent? (id : String) : Option Agent := s.agents.rows.find? (·.id == id)

/-- `SELECT … FROM channel_members WHERE channel_id = ? AND agent_id = ?`. -/
def isMember (channelId agentId : String) : Bool :=
  s.members.rows.any fun m => m.channelId == channelId && m.agentId == agentId

/-- The members of a channel, with the names of their agents. -/
def memberViews (channelId : String) : List MemberView :=
  (s.members.select (·.channelId == channelId)).filterMap fun m =>
    (s.agent? m.agentId).map fun a => ⟨m.agentId, a.name, m.role, m.joinedAt, m.isMuted⟩

/-- The channel as a read shows it. -/
def view (c : Row) : View :=
  ⟨c.id, c.name, c.topic, c.metadata, s.memberViews c.id, c.createdAt, c.isArchived⟩

/-- Is the agent an active participant of a conversation on the channel? -/
def participates (channelId agentId : String) : Bool :=
  s.conversations.rows.any fun v => v.channelId == channelId &&
    s.participants.rows.any fun p => p.conversationId == v.id && p.agentId == agentId && !p.left

end Store

/-! ## Operations -/

section Operations

variable (s : Store) (now : Millis)

/-- `getChannel`: the channel if there is one, and the cache filled. -/
def getChannel (name : String) : Store × Option View :=
  match if isSubscriptionChannel name then none else s.cached? now name with
  | some data => (s, some data)
  | none =>
    match s.channel? name with
    | none => (s, none)
    | some channel =>
      let result := s.view channel
      (if isSubscriptionChannel name then s else s.setCachedChannel now name result, some result)

/-- `GET /channels/:name`. -/
def readChannel (name : String) : Outcome :=
  match getChannel s now name with
  | (s', some view) => (s', .ok (.channel view))
  | (s', none) => (s', .error (channelNotFound name))

/-- The cursors and the limit of a page of messages. -/
structure PageOptions where
  limit : Option ℕ
  before : Option String
  after : Option String

/-- `getMessages`. -/
def getMessages (channelId : String) (opts : PageOptions) : List Message :=
  let limit := min (max ((opts.limit.filter (· != 0)).getD 50) 1) 100
  ((s.messages.select fun m =>
    m.channelId == channelId && m.threadId.isNone &&
      opts.before.all (decide <| m.id < ·) && opts.after.all (decide <| · < m.id)).mergeSort
        fun m m' => decide (m'.id ≤ m.id)).take limit

/-- `GET /channels/:name/messages`. -/
def listMessages (name : String) (opts : PageOptions) : Outcome :=
  match getChannel s now name with
  | (s', some view) => (s', .ok (.messages (getMessages s' view.id opts)))
  | (s', none) => (s', .error (channelNotFound name))

/-- `POST /channels/:name/messages`: look the name up, then `postMessage`. -/
def postMessage (name agentId messageId text : String) : Outcome :=
  match getChannel s now name with
  | (s', some view) =>
    let message : Message := ⟨messageId, view.id, agentId, none, text⟩
    if s'.messages.conflicts message then
      (s', .error ⟨"UNIQUE constraint failed: messages.id", "internal_error", 500⟩)
    else
      ({ s' with messages := s'.messages.insertOrIgnore message }, .ok (.message message))
  | (s', none) => (s', .error (channelNotFound name))

/-- `metadata.subscription_agent_id`, if the metadata have the shape of a subscription's. -/
def subscriptionRecipient (metadata : Record) : Option String :=
  (metadata.field "subscription_agent_id").string?.filter (· != "")

/-- `assertSubscriptionRecipient`. -/
def assertSubscriptionRecipient (channel : Row) (agentId : String) : Except CodedError Unit :=
  if isSubscriptionChannel channel.name &&
      subscriptionRecipient channel.metadata != some agentId then
    .error ⟨"Only the subscription recipient may join this channel", "subscription_recipient_only",
      403⟩
  else .ok ()

/-- The insert into `channel_members`; into a subscription channel only while the agent is not
released. -/
def insertMember (channel : Row) (agentId : String) : Except CodedError Store :=
  if isSubscriptionChannel channel.name && !(s.agent? agentId).any (!·.released) then
    .error ⟨"Subscription recipient was released", "agent_not_found", 404⟩
  else
    .ok { s with
      members := s.members.insertOrIgnore ⟨channel.id, agentId, "member", now, false⟩ }

/-- The channel an operation on the table itself works on. -/
def findChannel (name : String) : Except CodedError Row :=
  match s.channel? name with
  | some channel => .ok channel
  | none => .error (channelNotFound name)

/-- `throw` if the channel is archived. -/
def assertNotArchived (channel : Row) (message : String) : Except CodedError Unit :=
  if channel.isArchived then .error ⟨message, "channel_archived", 400⟩ else .ok ()

def joinChannel (channelName agentId : String) : Except CodedError (Store × Reply) := do
  let channel ← findChannel s channelName
  assertNotArchived channel "Cannot join an archived channel"
  assertSubscriptionRecipient channel agentId
  if s.isMember channel.id agentId then
    .ok (s, .joined channelName agentId true)
  else
    let s' ← insertMember s now channel agentId
    .ok (s'.invalidateChannelCache channelName, .joined channelName agentId false)

/-- `throw` unless the inviter is a member. -/
def assertMember (channelId agentId : String) : Except CodedError Unit :=
  if s.isMember channelId agentId then .ok ()
  else .error ⟨"You must be a member of the channel to invite others", "not_a_member", 403⟩

/-- The agent of a name. -/
def findAgent (name : String) : Except CodedError Agent :=
  match s.agents.rows.find? (·.name == name) with
  | some agent => .ok agent
  | none => .error ⟨"Agent \"" ++ name ++ "\" not found", "agent_not_found", 404⟩

def inviteAgent (channelName inviterAgentId inviteeAgentName : String) :
    Except CodedError (Store × Reply) := do
  let channel ← findChannel s channelName
  assertNotArchived channel "Cannot invite to an archived channel"
  assertMember s channel.id inviterAgentId
  let invitee ← findAgent s inviteeAgentName
  assertSubscriptionRecipient channel invitee.id
  if s.isMember channel.id invitee.id then
    .ok (s, .invited channelName inviteeAgentName)
  else
    let s' ← insertMember s now channel invitee.id
    .ok (s'.invalidateChannelCache channelName, .invited channelName inviteeAgentName)

/-- The columns `updateChannel` is asked to set. -/
structure Updates where
  topic : Option (Option String)
  metadata : Option Record

/-- `setClause`, on a row. -/
def Updates.set (updates : Updates) (c : Row) : Row :=
  { c with topic := updates.topic.getD c.topic, metadata := updates.metadata.getD c.metadata }

/-- `throw` if the metadata of a subscription channel are to change. -/
def assertMutable (name : String) (updates : Updates) : Except CodedError Unit :=
  if isSubscriptionChannel name && updates.metadata.isSome then
    .error ⟨"Subscription routing metadata is immutable", "subscription_metadata_immutable", 403⟩
  else .ok ()

def updateChannel (name : String) (updates : Updates) : Except CodedError (Store × Reply) := do
  let channel ← findChannel s name
  assertNotArchived channel "Cannot update an archived channel"
  assertMutable name updates
  if updates.topic.isNone && updates.metadata.isNone then
    match getChannel s now name with
    | (s', some view) => .ok (s', .channel view)
    | (_, none) => .error (channelNotFound name)
  else
    let channels := s.channels.update (·.id == channel.id) updates.set fun _ => rfl
    let s' := { s with channels := channels }
    .ok (s'.invalidateChannelCache name, .updated (updates.set channel))

def archiveChannel (name : String) : Except CodedError (Store × Reply) := do
  if name == "general" then
    .error ⟨"The #general channel cannot be archived", "cannot_archive_general", 400⟩
  else
    let channel ← findChannel s name
    let channels :=
      s.channels.update (·.id == channel.id) (fun c => { c with isArchived := true }) fun _ => rfl
    let s' := { s with channels := channels }
    .ok (s'.invalidateChannelCache name, .archived name)

/-- What an operation that throws leaves: the tables as they were. -/
def outcome (result : Except CodedError (Store × Reply)) : Outcome :=
  match result with
  | .ok (s', reply) => (s', .ok reply)
  | .error e => (s, .error e)

end Operations

/-- The operations addressed by a name. -/
inductive Op
  | readChannel
  | listMessages (opts : PageOptions)
  | postMessage (messageId text : String)
  | joinChannel
  | inviteAgent (inviteeAgentName : String)
  | updateChannel (updates : Updates)
  | archiveChannel

/-- An operation, with the name it is addressed by, who asks for it and when. -/
structure Request where
  name : String
  agentId : String
  now : Millis
  op : Op

/-- What a request does. -/
def perform (s : Store) (r : Request) : Outcome :=
  match r.op with
  | .readChannel => readChannel s r.now r.name
  | .listMessages opts => listMessages s r.now r.name opts
  | .postMessage messageId text => postMessage s r.now r.name r.agentId messageId text
  | .joinChannel => outcome s (joinChannel s r.now r.name r.agentId)
  | .inviteAgent invitee => outcome s (inviteAgent s r.now r.name r.agentId invitee)
  | .updateChannel updates => outcome s (updateChannel s r.now r.name updates)
  | .archiveChannel => outcome s (archiveChannel s r.name)

end Channel
