import Relaycast.Observer.Token

/-!
# Events on the wire

An event of the workspace carries a bag of data.  Before it is stored and sent it is reshaped into
the form its type has for clients, and only that form reaches the filter of an observer's stream.
The filter has to tell from it whether the event belongs to a direct message: a `conversation_id`
says so, or the type.

The digest the ids of events are taken from is a parameter.
-/

namespace Observer

open Script

/-- `value.startsWith(start)`. -/
def startsWith (value start : String) : Bool := start.toList.isPrefixOf value.toList

/-! ## Reshaping -/

/-- An event as the engine publishes it. -/
structure WsEvent where
  type : String
  channelId : Option String
  data : Record
  timestamp : String

def WsEvent.createdAt (event : WsEvent) : String :=
  ((event.data.field "created_at").string?).getD event.timestamp

/-- `event.channel_id`. -/
def WsEvent.channel (event : WsEvent) : Value := event.channelId.elim .undefined .str

/-- `...withCreatedAt`. -/
def WsEvent.withCreatedAt (event : WsEvent) : Record := [("created_at", .str event.createdAt)]

/-- `...(event.channel_id ? { channel_id: event.channel_id } : {})`. -/
def WsEvent.withChannel (event : WsEvent) : Record :=
  Record.given event.channel.truthy [("channel_id", event.channel)]

/-- `...(d[k] ? { [k]: d[k] } : {})`. -/
def WsEvent.withTruthy (event : WsEvent) (k : String) : Record :=
  Record.given (event.data.field k).truthy [(k, event.data.field k)]

/-- The agent an `agent.status` event is about. -/
def WsEvent.agentRef (event : WsEvent) : Value :=
  let agentId := ((event.data.field "agent_id").string?).or
    (event.data.field "subject_agent_id").string?
  .obj (Record.given (agentId.any (· != "")) [("id", agentId.elim .undefined .str)] ++
    [("name", event.data.field "agent_name")])

/-- The `agent.status` events differ in the status alone. -/
def agentStatus (event : WsEvent) (status : Value) : Record :=
  [("type", .str event.type)] ++ event.withCreatedAt ++
    [("agent", event.agentRef), ("status", status)]

/-- `channel.created` and `channel.updated`. -/
def channelChanged (event : WsEvent) : Record :=
  [("type", .str event.type)] ++ event.withCreatedAt ++
    Record.given (event.channel.truthy || (event.data.field "id").truthy)
      [("channel_id", event.channel.orElse (event.data.field "id"))] ++
    [("channel", .obj [
      ("name", (event.data.field "channel_name").orElse (event.data.field "name")),
      ("topic", (event.data.field "topic").orElse .null)])]

/-- `member.joined` and `member.left`. -/
def memberChanged (event : WsEvent) : Record :=
  [("type", .str event.type)] ++ event.withCreatedAt ++ event.withChannel ++
    [("channel", event.data.field "channel_name")] ++ event.withTruthy "agent_id" ++
    [("agent_name", event.data.field "agent_name")]

/-- The message of a `dm.received` or `group_dm.received` event. -/
def dmMessage (event : WsEvent) (agentId : Value) (address : Record) : Value :=
  let d := event.data
  let msg : Record := (d.field "message").asRecord
  let injectionMode := (msg.field "injection_mode").orElse (d.field "injection_mode")
  let attachments := ((msg.field "attachments").orElse (d.field "attachments")).orElse (.arr [])
  .obj ([
      ("id", (msg.field "id").orElse (d.field "id")),
      ("agent_id", agentId),
      ("agent_name", (msg.field "agent_name").orElse (d.field "from_name"))] ++ address ++
    [("text", (msg.field "text").orElse (d.field "text"))] ++
    Record.given injectionMode.truthy [("injection_mode", injectionMode)] ++
    Record.given (attachments.length != 0) [("attachments", attachments)])

section Transform

variable (eventId : Option String → String)

/-- `dm.received` and `group_dm.received`. -/
def dmReceived (event : WsEvent) (message : Value) : Record :=
  let d := event.data
  let msg : Record := (d.field "message").asRecord
  [("id", .str (eventId ((msg.field "id").orElse (d.field "id")).string?)),
    ("type", .str event.type)] ++ event.withCreatedAt ++
    [("conversation_id", d.field "conversation_id"), ("message", message)]

def transformForClient (event : WsEvent) : Record :=
  let d := event.data
  match event.type with
  | "message.created" =>
    [("id", .str (eventId (d.field "id").string?)), ("type", .str "message.created")] ++
      event.withCreatedAt ++ event.withChannel ++
      [("channel", d.field "channel_name"), ("message", .obj ([
        ("id", d.field "id"),
        ("agent_id", d.field "agent_id"),
        ("agent_name", d.field "from_name"),
        ("text", d.field "text"),
        ("attachments", (d.field "attachments").orElse (.arr [])),
        ("injection_mode", d.field "injection_mode")] ++
        Record.given (d.field "metadata").isRecord [("metadata", d.field "metadata")]))]
  | "message.updated" =>
    [("type", .str "message.updated")] ++ event.withCreatedAt ++ event.withChannel ++
      [("channel", d.field "channel_name"), ("message", .obj [
        ("id", d.field "id"),
        ("agent_id", d.field "agent_id"),
        ("agent_name", d.field "from_name"),
        ("text", d.field "text")])]
  | "thread.reply" =>
    [("id", .str (eventId (d.field "id").string?)), ("type", .str "thread.reply")] ++
      event.withCreatedAt ++ event.withChannel ++ event.withTruthy "conversation_id" ++
      [("channel", d.field "channel_name"), ("parent_id", d.field "thread_id"),
        ("message", .obj ([
          ("id", d.field "id"),
          ("agent_id", d.field "agent_id"),
          ("agent_name", d.field "from_name")] ++
          Record.given (d.field "agent_address").string?.isSome
            [("agent_address", d.field "agent_address")] ++
          [("text", d.field "text")]))]
  | "message.reacted" =>
    [("type", .str "message.reacted")] ++ event.withCreatedAt ++ event.withChannel ++
      Record.given (d.field "channel_name").truthy [("channel", d.field "channel_name")] ++
      event.withTruthy "conversation_id" ++
      [("message_id", d.field "message_id"), ("emoji", d.field "emoji")] ++
      event.withTruthy "agent_id" ++
      [("agent_name", d.field "agent_name"),
        ("action", (d.field "action").orElse (.str "added"))]
  | "dm.received" =>
    let msg : Record := (d.field "message").asRecord
    dmReceived eventId event (dmMessage event
      (((msg.field "agent_id").orElse (d.field "from_agent_id")).orElse (d.field "agent_id"))
      (Record.given (msg.field "agent_address").string?.isSome
        [("agent_address", msg.field "agent_address")]))
  | "group_dm.received" =>
    let msg : Record := (d.field "message").asRecord
    dmReceived eventId event
      (dmMessage event ((msg.field "agent_id").orElse (d.field "agent_id")) [])
  | "agent.status.active" => agentStatus event (.str "active")
  | "agent.status.offline" => agentStatus event (.str "offline")
  | "agent.status.changed" => agentStatus event (d.field "status")
  | "agent.status.idle" => agentStatus event (.str "idle")
  | "agent.status.blocked" => agentStatus event (.str "blocked")
  | "agent.status.waiting" => agentStatus event (.str "waiting")
  | "channel.created" => channelChanged event
  | "channel.updated" => channelChanged event
  | "channel.archived" =>
    [("type", .str "channel.archived")] ++ event.withCreatedAt ++ event.withChannel ++
      [("channel", .obj [("name", d.field "channel_name")])]
  | "member.joined" => memberChanged event
  | "member.left" => memberChanged event
  | "message.read" =>
    [("type", .str "message.read")] ++ event.withCreatedAt ++ event.withChannel ++
      [("message_id", d.field "message_id")] ++ event.withTruthy "conversation_id" ++
      event.withTruthy "agent_id" ++
      [("agent_name", d.field "agent_name"), ("read_at", d.field "read_at")]
  | "file.uploaded" =>
    [("type", .str "file.uploaded")] ++ event.withCreatedAt ++ event.withTruthy "agent_id" ++
      [("file", .obj [
        ("file_id", (d.field "file_id").orElse (d.field "id")),
        ("filename", d.field "filename"),
        ("uploaded_by", (d.field "uploaded_by").orElse (d.field "agent_id"))])]
  | "webhook.received" =>
    [("type", .str "webhook.received")] ++ event.withCreatedAt ++ event.withChannel ++
      [("webhook_id", d.field "webhook_id"), ("channel", d.field "channel"),
        ("message", .obj [
          ("id", d.field "message_id"),
          ("text", d.field "text"),
          ("source", (d.field "source").orElse .null),
          ("author", (d.field "author").orElse .null)])]
  | _ => [("type", .str event.type)] ++ d ++ event.withCreatedAt

end Transform

/-! ## The filter of the stream -/

def eventChannelName (event : Record) : Option String :=
  match event.field "channel" with
  | .str name => some name
  | channel => (channel.asRecord.field "name").string?

def eventAgentId (event : Record) : Option String :=
  let message : Record := (event.field "message").asRecord
  let agent : Record := (event.field "agent").asRecord
  (event.field "agent_id").string?.or ((event.field "subject_agent_id").string?.or
    ((message.field "agent_id").string?.or (agent.field "id").string?))

def eventCreatedAt (event : Record) : Option String :=
  let message : Record := (event.field "message").asRecord
  (event.field "created_at").string?.or ((event.field "timestamp").string?.or
    (message.field "created_at").string?)

def isChannelScopedEventType (type : String) : Bool :=
  type == "message.created" || type == "message.updated" || type == "message.read" ||
    type == "message.reacted" || type == "thread.reply" || type == "webhook.received" ||
    startsWith type "member." || startsWith type "channel."

def eventRequiredScopes (type : String) : List ObserverScope :=
  if type == "message.created" || type == "message.updated" || type == "message.read" ||
      type == "webhook.received" then [.messagesRead]
  else if type == "thread.reply" then [.threadsRead]
  else if type == "message.reacted" then [.reactionsRead]
  else if type == "dm.received" || type == "group_dm.received" then [.dmsRead]
  else if type == "file.uploaded" then [.filesRead]
  else if startsWith type "agent.status." || type == "agent.exited" then [.agentsRead]
  else if startsWith type "member." || startsWith type "channel." then [.channelsRead]
  else if startsWith type "delivery." then [.deliveriesRead]
  else if startsWith type "node." then [.nodesRead]
  else [.activityRead]

/-- `event.type`, or the empty text. -/
def eventType (event : Record) : String := (event.field "type").string?.getD ""

/-- `event.conversation_id`, if it is a string. -/
def eventConversationId (event : Record) : Option String :=
  (event.field "conversation_id").string?

/-- Does the stream treat the event as part of a direct message? -/
def isDmEvent (event : Record) : Bool :=
  (eventConversationId event).isSome || eventType event == "dm.received" ||
    eventType event == "group_dm.received"

/-- The part of the filter that looks at the conversation or the channel. -/
def allowsPlace (observer : ObserverToken) (event : Record) : Bool :=
  if isDmEvent event then
    observerAllowsConversation observer (eventConversationId event)
  else
    let channelId := (event.field "channel_id").string?
    let channelName := eventChannelName event
    let hasChannelContext := channelId.any (· != "") || channelName.any (· != "")
    !((hasChannelContext || isChannelScopedEventType (eventType event)) &&
      !observerAllowsChannel observer channelId channelName none)

def observerAllowsEvent (parseDate : String → Option ℤ) (observer : ObserverToken)
    (event : Record) : Bool :=
  let filters := normalizeObserverFilters observer.filters
  if filters.eventTypes.any fun types => !types.isEmpty && !types.contains (eventType event) then
    false
  else if !hasAnyObserverScope observer (eventRequiredScopes (eventType event)) then false
  else if !observerAllowsCreatedAt observer parseDate (eventCreatedAt event) then false
  else if !allowsPlace observer event then false
  else observerAllowsAgent observer (eventAgentId event)

variable {parseDate : String → Option ℤ} {observer : ObserverToken} {event : Record}

/-- An event that passes the filter passes the check of its place. -/
lemma allowsPlace_of_allows (h : observerAllowsEvent parseDate observer event = true) :
    allowsPlace observer event = true := by
  by_contra hno
  have hplace : allowsPlace observer event = false := by simpa using hno
  simp [observerAllowsEvent, hplace] at h

/-- **An event that names its conversation reaches only observers of it.** -/
theorem dmAccess_of_conversation {conversationId : String}
    (hconv : event.field "conversation_id" = .str conversationId)
    (h : observerAllowsEvent parseDate observer event = true) :
    DmAccess observer conversationId := by
  have hid : eventConversationId event = some conversationId := by
    rw [eventConversationId, hconv]
    rfl
  have hplace := allowsPlace_of_allows h
  rw [allowsPlace, if_pos (by simp [isDmEvent, hid]), hid] at hplace
  exact dmAccess_of_allows hplace

end Observer
