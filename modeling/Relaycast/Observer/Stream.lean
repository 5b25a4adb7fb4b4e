import Relaycast.Observer.Routes

/-!
# Direct messages on the observer stream

The stream filter knows an event of a direct message by its conversation id, so a direct message is
confidential on the stream exactly if every event about it carries the id.  The conversation routes,
the replies, the reactions and the receipts see to that: a message in the channel of a conversation
finds the conversation standing on its channel.  A post to the channel by its name does not look,
and its event is filtered as that of any other channel.

So the stream is confidential along a history exactly if no request of it posts to the channel of a
conversation by name (`streamConfidential_iff`).  The reasoning is about one step: what an insert
leaves of the tables keeps every direct message findable (`Placed`), and under it each published
event either carries its conversation or is not about a direct message.
-/

namespace Observer

open Script Relational

/-! ## Fields of the reshaped events -/

section Fields

variable {eventId : Option String → String} {mentions : String → List String}

/-- **An event whose data name a conversation names it on the wire**, if its type is one of those
that keep the field. -/
lemma field_publishEvent_conversation {type : String} {channelId : Option String} {data : Record}
    {timestamp conversationId : String}
    (htype : type = "thread.reply" ∨ type = "message.reacted" ∨ type = "message.read" ∨
      type = "dm.received" ∨ type = "group_dm.received")
    (hne : conversationId ≠ "") (hdata : data.field "conversation_id" = .str conversationId) :
    (publishEvent eventId type channelId data timestamp).field "conversation_id" =
      .str conversationId := by
  simp only [Record.field] at hdata
  rcases htype with rfl | rfl | rfl | rfl | rfl <;>
    simp [publishEvent, transformForClient, dmReceived, WsEvent.withTruthy, WsEvent.withChannel,
      WsEvent.withCreatedAt, Record.field, hdata, Value.truthy, hne]

/-- The token that reads messages and filters nothing. -/
def messagesObserver : ObserverToken where
  scopes := ["messages:read"]
  filters := ⟨none, none, none, none, none, none, none⟩

/-- The event of a message posted by name passes the filter of any observer of messages. -/
lemma messagesObserver_allows {channelId : Option String} {data : Record} {timestamp : String}
    {parseDate : String → Option ℤ} :
    observerAllowsEvent parseDate messagesObserver
      (publishEvent eventId "message.created" channelId data timestamp) = true := by
  have htype : eventType (publishEvent eventId "message.created" channelId data timestamp) =
      "message.created" := by
    simp [eventType, publishEvent, transformForClient, WsEvent.withChannel, WsEvent.withCreatedAt,
      Record.field, Value.string?]
  have hconv : eventConversationId
      (publishEvent eventId "message.created" channelId data timestamp) = none := by
    simp [eventConversationId, publishEvent, transformForClient, WsEvent.withChannel,
      WsEvent.withCreatedAt, Record.field, Value.string?]
  have hscope : hasAnyObserverScope messagesObserver [.messagesRead] = true := by decide +kernel
  have hfilters : messagesObserver.filters = ⟨none, none, none, none, none, none, none⟩ := rfl
  simp [observerAllowsEvent, htype, eventRequiredScopes, hscope, allowsPlace, isDmEvent, hconv,
    observerAllowsChannel, observerAllowsAgent, observerAllowsCreatedAt, normalizeObserverFilters,
    hfilters, distinct, filterList]

lemma not_dmAccess_messagesObserver (conversationId : String) :
    ¬ DmAccess messagesObserver conversationId := by
  intro h
  have hincluded : (none : Option Bool) = some true := h.included
  simp at hincluded

end Fields

/-! ## Every direct message is findable -/

/-- The rows of the tables refer to each other: a message in a channel of direct messages finds the
conversation of its channel, and no two conversations share a channel. -/
structure Placed (s : Store) : Prop where
  channelOfMessage : ∀ m ∈ s.messages, (s.channelById? m.channelId).isSome
  channelOfConversation : ∀ v ∈ s.conversations, (s.channelById? v.channelId).isSome
  named : ∀ v ∈ s.conversations, v.id ≠ ""
  shape : ∀ v ∈ s.conversations,
    (∃ pairKey, v.id = "dm_" ++ pairKey ∧ v.channelId = "dmch_" ++ pairKey) ∨
      v.channelId.toList.all Char.isDigit = true
  alone : ∀ v ∈ s.conversations, ∀ v' ∈ s.conversations, v.channelId = v'.channelId → v = v'
  conversed : ∀ m ∈ s.messages, s.isDm m.channelId = true →
    (s.conversationOn? m.channelId).isSome

/-- Looking up a row that was there before an insert. -/
lemma find?_insertOrIgnore {Row : Type} [Keyed Row] {T : Table Row} {r x : Row} {p : Row → Bool}
    (h : T.rows.find? p = some x) : (T.insertOrIgnore r).rows.find? p = some x := by
  unfold Table.insertOrIgnore
  split
  · rw [Table.insert, List.find?_append, h]
    rfl
  · exact h

/-- A conversation is what its channel finds. -/
lemma Placed.conversationOn? {s : Store} (h : Placed s) {v : Dm.Conversation}
    (hv : v ∈ s.conversations) : s.conversationOn? v.channelId = some v := by
  cases hfind : s.conversationOn? v.channelId with
  | none =>
    have hmiss := List.find?_eq_none.mp hfind v hv
    simp at hmiss
  | some w =>
    have hw : w ∈ s.conversations := List.mem_of_find?_eq_some hfind
    have hch : w.channelId = v.channelId := by simpa using List.find?_some hfind
    rw [h.alone w hw v hv hch]

/-- A conversation found by its id is in the table. -/
lemma mem_of_conversation? {s : Store} {id : String} {v : Dm.Conversation}
    (h : s.conversation? id = some v) : v ∈ s.conversations ∧ v.id = id :=
  ⟨List.mem_of_find?_eq_some h, by simpa using List.find?_some h⟩

lemma mem_of_conversationOn? {s : Store} {channelId : String} {v : Dm.Conversation}
    (h : s.conversationOn? channelId = some v) : v ∈ s.conversations ∧ v.channelId = channelId :=
  ⟨List.mem_of_find?_eq_some h, by simpa using List.find?_some h⟩

lemma mem_of_message? {s : Store} {id : String} {m : Message} (h : s.message? id = some m) :
    m ∈ s.messages := List.mem_of_find?_eq_some h

/-- A channel found by its name is the one its id finds. -/
lemma channelById?_of_channel? {s : Store} {name : String} {c : Dm.Channel}
    (h : s.channel? name = some c) : s.channelById? c.id = some c := by
  have hc : c ∈ s.channels := List.mem_of_find?_eq_some h
  cases hfind : s.channelById? c.id with
  | none =>
    have hmiss := List.find?_eq_none.mp hfind c hc
    simp at hmiss
  | some c' =>
    have hid : c'.id = c.id := by simpa using List.find?_some hfind
    have hsame : c' = c := Table.eq_of_clash (List.mem_of_find?_eq_some hfind) hc
      (by simp [clash, key, hid])
    rw [hsame]

/-! ### What the inserts leave -/

section Inserts

variable {s s' : Store}

lemma Placed.congr (h : Placed s) (hchannels : s'.channels = s.channels)
    (hconversations : s'.conversations = s.conversations) (hmessages : s'.messages = s.messages) :
    Placed s' := by
  obtain ⟨h₁, h₂, h₃, h₄, h₅, h₆⟩ := h
  simp only [Store.channelById?, Store.isDm, Store.conversationOn?] at h₁ h₂ h₆
  constructor <;>
    simpa only [Store.channelById?, Store.isDm, Store.conversationOn?, hchannels, hconversations,
      hmessages]

/-- Inserting a channel does not touch the type of a channel that is there. -/
lemma isDm_insertChannel {c : Dm.Channel} {channelId : String}
    (hthere : (s.channelById? channelId).isSome) :
    ({ s with channels := s.channels.insertOrIgnore c } : Store).isDm channelId =
      s.isDm channelId := by
  obtain ⟨c', hc'⟩ := Option.isSome_iff_exists.mp hthere
  have hnew : ({ s with channels := s.channels.insertOrIgnore c } : Store).channelById? channelId =
      some c' := find?_insertOrIgnore hc'
  rw [Store.isDm, Store.isDm, hnew, hc']

lemma isSome_insertChannel {c : Dm.Channel} {channelId : String}
    (hthere : (s.channelById? channelId).isSome) :
    (({ s with channels := s.channels.insertOrIgnore c } : Store).channelById?
      channelId).isSome := by
  obtain ⟨c', hc'⟩ := Option.isSome_iff_exists.mp hthere
  exact Option.isSome_iff_exists.mpr ⟨c', find?_insertOrIgnore hc'⟩

lemma Placed.insertChannel (h : Placed s) (c : Dm.Channel) :
    Placed { s with channels := s.channels.insertOrIgnore c } where
  channelOfMessage m hm := isSome_insertChannel (h.channelOfMessage m hm)
  channelOfConversation v hv := isSome_insertChannel (h.channelOfConversation v hv)
  named := h.named
  shape := h.shape
  alone := h.alone
  conversed m hm hdm := by
    rw [isDm_insertChannel (h.channelOfMessage m hm)] at hdm
    exact h.conversed m hm hdm

lemma Placed.insertConversation (h : Placed s) (v : Dm.Conversation)
    (hchannel : (s.channelById? v.channelId).isSome) (hid : v.id ≠ "")
    (hshape : (∃ pairKey, v.id = "dm_" ++ pairKey ∧ v.channelId = "dmch_" ++ pairKey) ∨
      v.channelId.toList.all Char.isDigit = true)
    (halone : s.conversations.conflicts v = false →
      ∀ v' ∈ s.conversations, v'.channelId ≠ v.channelId) :
    Placed { s with conversations := s.conversations.insertOrIgnore v } where
  channelOfMessage := h.channelOfMessage
  channelOfConversation v' hv' := by
    rcases Table.mem_insertOrIgnore hv' with hv' | ⟨rfl, -⟩
    · exact h.channelOfConversation v' hv'
    · exact hchannel
  named v' hv' := by
    rcases Table.mem_insertOrIgnore hv' with hv' | ⟨rfl, -⟩
    · exact h.named v' hv'
    · exact hid
  shape v' hv' := by
    rcases Table.mem_insertOrIgnore hv' with hv' | ⟨rfl, -⟩
    · exact h.shape v' hv'
    · exact hshape
  alone v₁ h₁ v₂ h₂ heq := by
    rcases Table.mem_insertOrIgnore h₁ with hold₁ | ⟨rfl, hnew⟩ <;>
      rcases Table.mem_insertOrIgnore h₂ with hold₂ | ⟨rfl, hnew'⟩
    · exact h.alone v₁ hold₁ v₂ hold₂ heq
    · exact absurd heq (halone hnew' v₁ hold₁)
    · exact absurd heq.symm (halone hnew v₂ hold₂)
    · rfl
  conversed m hm hdm := by
    obtain ⟨v', hv'⟩ := Option.isSome_iff_exists.mp (h.conversed m hm hdm)
    exact Option.isSome_iff_exists.mpr ⟨v', find?_insertOrIgnore hv'⟩

lemma Placed.insertMessage (h : Placed s) {m : Message} (hs : s.insertMessage m = some s')
    (hchannel : (s.channelById? m.channelId).isSome)
    (hconversed : s.isDm m.channelId = true → (s.conversationOn? m.channelId).isSome) :
    Placed s' := by
  unfold Store.insertMessage at hs
  split at hs
  · simp at hs
  · obtain rfl := Option.some.inj hs
    refine ⟨fun m' hm' => ?_, h.channelOfConversation, h.named, h.shape, h.alone,
      fun m' hm' => ?_⟩
    · rcases Table.mem_insertOrIgnore hm' with hm' | ⟨rfl, -⟩
      · exact h.channelOfMessage m' hm'
      · exact hchannel
    · rcases Table.mem_insertOrIgnore hm' with hm' | ⟨rfl, -⟩
      · exact h.conversed m' hm'
      · exact hconversed

/-- An inserted message leaves the other tables. -/
lemma tables_insertMessage {m : Message} (hs : s.insertMessage m = some s') :
    s'.channels = s.channels ∧ s'.conversations = s.conversations := by
  unfold Store.insertMessage at hs
  split at hs
  · simp at hs
  · obtain rfl := Option.some.inj hs
    exact ⟨rfl, rfl⟩

end Inserts

/-! ## One request -/

/-- Does the request post a new message to the channel of a conversation, by the channel's name? -/
def Request.entersDmByName (s : Store) : Request → Bool
  | .postMessage channelName post =>
    (s.channel? channelName).any (·.channelType != 0) && !s.messages.conflicts (post.row "" none)
  | _ => false

/-- An event about a direct message reaches only observers of its conversation. -/
def Store.Confined (s : Store) (p : Published) : Prop :=
  s.isDm p.message.channelId = true → ∀ parseDate observer,
    observerAllowsEvent parseDate observer p.event = true →
      ∃ v, s.conversationOn? p.message.channelId = some v ∧ DmAccess observer v.id

section Step

variable {eventId : Option String → String} {mentions : String → List String}
  {s s' : Store} {events : List Published} {post : Post}

/-- An event that carries the conversation of its message is confined. -/
lemma confined_of_conversation (h : Placed s) {m : Message} {type : String}
    {channelId : Option String} {data : Record} {timestamp : String}
    (htype : type = "thread.reply" ∨ type = "message.reacted" ∨ type = "message.read" ∨
      type = "dm.received" ∨ type = "group_dm.received")
    (hconversed : s.isDm m.channelId = true → (s.conversationOn? m.channelId).isSome)
    (hdata : ∀ v, s.conversationOn? m.channelId = some v →
      data.field "conversation_id" = .str v.id) :
    s.Confined ⟨m, publishEvent eventId type channelId data timestamp⟩ := by
  intro hdm parseDate observer hallows
  obtain ⟨v, hv⟩ := Option.isSome_iff_exists.mp (hconversed hdm)
  have hne : v.id ≠ "" := h.named v (mem_of_conversationOn? hv).1
  exact ⟨v, hv, dmAccess_of_conversation
    (field_publishEvent_conversation htype hne (hdata v hv)) hallows⟩

/-- What a successful request leaves: the rows still refer to each other, and its events are
confined. -/
structure Leaves (s : Store) (o : Outcome) : Prop where
  placed : Placed o.1
  confined : ∀ p ∈ o.2, o.1.Confined p

/-- A request that publishes nothing. -/
lemma Leaves.quiet (h : Placed s) : Leaves s' (s, []) :=
  ⟨h, fun _ hp => absurd hp List.not_mem_nil⟩

/-- A request that publishes one event. -/
lemma Leaves.one (h : Placed s) {p : Published} (hp : s.Confined p) : Leaves s' (s, [p]) :=
  ⟨h, fun _ hq => List.mem_singleton.mp hq ▸ hp⟩

/-- A message is stored and an event published that carries its conversation. -/
lemma Leaves.posted (h : Placed s) {m : Message} (hs : s.insertMessage m = some s')
    (hchannel : (s.channelById? m.channelId).isSome)
    (hconversed : s.isDm m.channelId = true → (s.conversationOn? m.channelId).isSome)
    {type : String} {channelId : Option String} {data : Record} {timestamp : String}
    (htype : type = "thread.reply" ∨ type = "message.reacted" ∨ type = "message.read" ∨
      type = "dm.received" ∨ type = "group_dm.received")
    (hdata : ∀ v, s.conversationOn? m.channelId = some v →
      data.field "conversation_id" = .str v.id) :
    Leaves s (s', [⟨m, publishEvent eventId type channelId data timestamp⟩]) := by
  obtain ⟨hchannels, hconversations⟩ := tables_insertMessage hs
  have hplaced := h.insertMessage hs hchannel hconversed
  apply Leaves.one hplaced
  apply confined_of_conversation hplaced htype
  · simpa only [Store.isDm, Store.channelById?, Store.conversationOn?, hchannels,
      hconversations] using hconversed
  · simpa only [Store.conversationOn?, hconversations] using hdata

/-- A message by name to a channel that is none of direct messages. -/
lemma postMessage_leaves (h : Placed s) {channelName : String}
    (hname : (Request.postMessage channelName post).entersDmByName s = false) {o : Outcome}
    (ho : postMessage eventId mentions s channelName post = some o) : Leaves s o := by
  simp only [postMessage, Option.bind_eq_bind, Option.bind_eq_some_iff, Option.some.injEq] at ho
  obtain ⟨channel, hchannel, s', hs, rfl⟩ := ho
  have hid := channelById?_of_channel? hchannel
  have hfree : s.messages.conflicts (post.row channel.id none) = false := by
    by_contra hc
    simp [Store.insertMessage, hc] at hs
  replace hfree : s.messages.conflicts (post.row "" none) = false := hfree
  have hordinary : s.isDm channel.id = false := by
    simpa [Request.entersDmByName, hchannel, hfree, Store.isDm, hid] using hname
  have hplaced : Placed s' := h.insertMessage hs (by simp [Post.row, hid])
    (by simp [Post.row, hordinary])
  apply Leaves.one hplaced
  intro hdm
  obtain ⟨hchannels, -⟩ := tables_insertMessage hs
  simp only [Store.isDm, Store.channelById?, hchannels] at hdm hordinary
  simp [Post.row, hordinary] at hdm

/-- A reply is in the channel of its parent. -/
lemma postReply_leaves (h : Placed s) {parentId : String} {o : Outcome}
    (ho : postReply eventId s parentId post = some o) : Leaves s o := by
  simp only [postReply, Option.bind_eq_bind, Option.bind_eq_some_iff, Option.some.injEq] at ho
  obtain ⟨parent, hparent, s', hs, rfl⟩ := ho
  have hmem := mem_of_message? hparent
  apply Leaves.posted h hs (h.channelOfMessage parent hmem) (h.conversed parent hmem) (.inl rfl)
  intro v hv
  simp only [Post.row] at hv
  simp [Post.threadReplyData, conversationField, Post.senderAddressField, Record.field, hv]

lemma sendDm_leaves (h : Placed s) {pairKey recipient : String} {o : Outcome}
    (ho : sendDm eventId s pairKey recipient post = some o) : Leaves s o := by
  simp only [sendDm, Option.bind_eq_bind, Option.bind_eq_some_iff, Option.some.injEq] at ho
  obtain ⟨conv, hconv, s', hs, rfl⟩ := ho
  obtain ⟨hmem, -⟩ := mem_of_conversation? hconv
  have hon := h.conversationOn? hmem
  apply Leaves.posted h hs (h.channelOfConversation conv hmem) (fun _ => by simp [Post.row, hon])
    (.inr (.inr (.inr (.inl rfl))))
  intro v hv
  obtain rfl : conv = v := Option.some.inj (hon.symm.trans hv)
  simp [Post.dmReceivedData, Record.field]

lemma postGroupMessage_leaves (h : Placed s) {conversationId : String} {o : Outcome}
    (ho : postGroupMessage eventId s conversationId post = some o) : Leaves s o := by
  unfold postGroupMessage at ho
  split at ho
  · simp only [Option.bind_eq_bind, Option.bind_eq_some_iff, Option.some.injEq] at ho
    obtain ⟨conv, hconv, s', hs, rfl⟩ := ho
    obtain ⟨hmem, rfl⟩ := mem_of_conversation? hconv
    have hon := h.conversationOn? hmem
    apply Leaves.posted h hs (h.channelOfConversation conv hmem)
      (fun _ => by simp [Post.row, hon]) (.inr (.inr (.inr (.inr rfl))))
    intro v hv
    obtain rfl : conv = v := Option.some.inj (hon.symm.trans hv)
    simp [Post.dmReceivedData, Record.field]
  · simp at ho

lemma addReaction_leaves (h : Placed s) {messageId emoji : String} {agent : Agent}
    {reactionId createdAt timestamp : String} {o : Outcome}
    (ho : addReaction eventId s messageId emoji agent reactionId createdAt timestamp = some o) :
    Leaves s o := by
  simp only [addReaction, Option.bind_eq_bind, Option.bind_eq_some_iff, Option.some.injEq] at ho
  obtain ⟨msg, hmsg, rfl⟩ := ho
  apply Leaves.one h
  apply confined_of_conversation h (.inr (.inl rfl)) (h.conversed msg (mem_of_message? hmsg))
  intro v hv
  simp [addedReactionData, conversationField, Record.field, hv]

lemma removeReaction_leaves (h : Placed s) {messageId emoji : String} {agent : Agent}
    {timestamp : String} {o : Outcome}
    (ho : removeReaction eventId s messageId emoji agent timestamp = some o) : Leaves s o := by
  simp only [removeReaction, Option.bind_eq_bind, Option.bind_eq_some_iff, Option.some.injEq] at ho
  obtain ⟨msg, hmsg, channel, -, rfl⟩ := ho
  apply Leaves.one h
  apply confined_of_conversation h (.inr (.inl rfl)) (h.conversed msg (mem_of_message? hmsg))
  intro v hv
  simp [removedReactionData, conversationField, Record.field, hv]

lemma markRead_leaves (h : Placed s) {messageId : String} {agent : Agent}
    {readAt timestamp : String} {o : Outcome}
    (ho : markRead eventId s messageId agent readAt timestamp = some o) : Leaves s o := by
  simp only [markRead, Option.bind_eq_bind, Option.bind_eq_some_iff] at ho
  obtain ⟨msg, hmsg, ho⟩ := ho
  split at ho
  · obtain rfl := Option.some.inj ho
    apply Leaves.one h
    apply confined_of_conversation h (.inr (.inr (.inl rfl)))
      (h.conversed msg (mem_of_message? hmsg))
    intro v hv
    simp [readData, conversationField, Record.field, hv]
  · simp at ho

lemma placed_rejoin (h : Placed s) (conversationId agentId : String) :
    Placed (s.rejoin conversationId agentId) := h.congr rfl rfl rfl

lemma insertDmConversation_leaves (h : Placed s) {pairKey fromAgentId toAgentId : String}
    {o : Outcome} (ho : insertDmConversation s pairKey fromAgentId toAgentId = some o) :
    Leaves s o := by
  simp only [insertDmConversation, Option.bind_eq_bind, Option.bind_eq_some_iff,
    Option.some.injEq] at ho
  obtain ⟨channel, hchannel, rfl⟩ := ho
  apply Leaves.quiet
  apply placed_rejoin
  apply placed_rejoin
  apply h.insertConversation _ (by rw [hchannel]; rfl) (by simp) (.inl ⟨pairKey, rfl, rfl⟩)
  -- a conversation on this channel is the conversation of this pair, and has its id
  intro hnew v hv hsame
  rcases h.shape v hv with ⟨pairKey', hid, hch⟩ | hdigits
  · have hkey : pairKey' = pairKey := by simpa using hch.symm.trans hsame
    have hclash := List.any_eq_false.mp hnew v hv
    simp [clash, key, hid, hkey] at hclash
  · rw [hsame] at hdigits
    simp at hdigits

lemma createGroupDm_leaves (h : Placed s) {conversationId channelId : GeneratedId}
    {participants : List String} {o : Outcome}
    (ho : createGroupDm s conversationId channelId participants = some o) : Leaves s o := by
  unfold createGroupDm at ho
  simp only [Bool.or_eq_true] at ho
  split at ho
  · simp at ho
  · rename_i hfree
    obtain rfl := Option.some.inj ho
    obtain ⟨hchannel, -⟩ := not_or.mp hfree
    replace hchannel : s.channels.conflicts
        ⟨channelId.value, "group-dm-" ++ conversationId.value, 2⟩ = false := by simpa using hchannel
    apply Leaves.quiet
    have hfold : ∀ (agents : List String) (t : Store), Placed t →
        Placed (agents.foldl (fun s agentId => s.rejoin conversationId.value agentId) t) := by
      intro agents
      induction agents with
      | nil => exact fun _ ht => ht
      | cons agent agents ih => exact fun t ht => ih _ (placed_rejoin ht _ _)
    apply hfold
    have hinserted := h.insertChannel ⟨channelId.value, "group-dm-" ++ conversationId.value, 2⟩
    refine hinserted.insertConversation ⟨conversationId.value, channelId.value, "group"⟩ ?_
      conversationId.nonempty (.inr channelId.digits) ?_
    · simp only [Store.channelById?, List.find?_isSome]
      exact ⟨_, Table.mem_insertOrIgnore_self hchannel, by simp⟩
    -- the channel is new, so no conversation stands on it
    intro _ v hv hsame
    obtain ⟨c, hc⟩ := Option.isSome_iff_exists.mp (h.channelOfConversation v hv)
    have hid : c.id = channelId.value := by simpa [hsame] using List.find?_some hc
    have hmiss := List.any_eq_false.mp hchannel c (List.mem_of_find?_eq_some hc)
    simp [clash, key, hid] at hmiss

/-- **What one request leaves**, unless it posts to the channel of a conversation by name. -/
lemma handle_leaves (h : Placed s) {r : Request} (hname : r.entersDmByName s = false)
    {o : Outcome} (ho : handle eventId mentions s r = some o) : Leaves s o := by
  cases r with
  | createChannel id name =>
    simp only [handle, createChannel] at ho
    split at ho
    · simp at ho
    · obtain rfl := Option.some.inj ho
      exact .quiet (h.insertChannel _)
  | joinChannel name agent =>
    simp only [handle, joinChannel, Option.bind_eq_bind, Option.bind_eq_some_iff,
      Option.some.injEq] at ho
    obtain ⟨channel, -, rfl⟩ := ho
    exact .quiet (h.congr rfl rfl rfl)
  | insertDmChannel pairKey =>
    obtain rfl := Option.some.inj ho
    exact .quiet (h.insertChannel _)
  | insertDmConversation pairKey a b => exact insertDmConversation_leaves h ho
  | createGroupDm conversationId channelId participants => exact createGroupDm_leaves h ho
  | addParticipant conversationId agentId inviteeId =>
    simp only [handle, addParticipant] at ho
    split at ho
    · obtain rfl := Option.some.inj ho
      exact .quiet (placed_rejoin h _ _)
    · simp at ho
  | removeParticipant conversationId agentId =>
    simp only [handle, removeParticipant] at ho
    split at ho
    · obtain rfl := Option.some.inj ho
      exact .quiet (h.congr rfl rfl rfl)
    · simp at ho
  | postMessage channelName post => exact postMessage_leaves h hname ho
  | postReply parentId post => exact postReply_leaves h ho
  | sendDm pairKey recipient post => exact sendDm_leaves h ho
  | postGroupMessage conversationId post => exact postGroupMessage_leaves h ho
  | addReaction messageId emoji agent reactionId createdAt timestamp =>
    exact addReaction_leaves h ho
  | removeReaction messageId emoji agent timestamp => exact removeReaction_leaves h ho
  | markRead messageId agent readAt timestamp => exact markRead_leaves h ho

/-- **One step.**  The rows still refer to each other, and what is published is confined. -/
lemma step_leaves (h : Placed s) {r : Request} (hname : r.entersDmByName s = false) :
    Leaves s (step eventId mentions s r) := by
  unfold step
  cases ho : handle eventId mentions s r with
  | none => exact .quiet h
  | some o => exact handle_leaves h hname ho

/-- An event about a direct message that an observer of messages receives is not confined. -/
lemma not_confined_of_allows {p : Published} (hdm : s.isDm p.message.channelId = true)
    (hallows : observerAllowsEvent (fun _ => none) messagesObserver p.event = true) :
    ¬ s.Confined p := by
  intro hconfined
  obtain ⟨v, -, haccess⟩ := hconfined hdm _ _ hallows
  exact not_dmAccess_messagesObserver v.id haccess

/-- A post by name to the channel of a conversation is published to observers of messages. -/
lemma not_confined_of_entersDmByName {r : Request} (hname : r.entersDmByName s = true) :
    ∃ p ∈ (step eventId mentions s r).2, ¬ (step eventId mentions s r).1.Confined p := by
  cases r with
  | postMessage channelName post =>
    simp only [Request.entersDmByName, Bool.and_eq_true, Bool.not_eq_true'] at hname
    obtain ⟨hdm, hfree⟩ := hname
    obtain ⟨channel, hchannel, htype⟩ := (Option.any_eq_true _ _).mp hdm
    have hinsert : s.insertMessage (post.row channel.id none) =
        some { s with messages := s.messages.insertOrIgnore (post.row channel.id none) } := by
      have hnot : s.messages.conflicts (post.row channel.id none) = false := hfree
      rw [Store.insertMessage, if_neg (by simp [hnot])]
    have hstep : step eventId mentions s (.postMessage channelName post) =
        ({ s with messages := s.messages.insertOrIgnore (post.row channel.id none) },
          [⟨post.row channel.id none, publishEvent eventId "message.created" channel.id
            (post.messageCreatedData mentions channel) post.timestamp⟩]) := by
      simp [step, handle, postMessage, hchannel, hinsert]
    have hisDm : s.isDm channel.id = true := by
      rw [Store.isDm, channelById?_of_channel? hchannel]
      simpa using htype
    have hallows : observerAllowsEvent (fun _ => none) messagesObserver
        (publishEvent eventId "message.created" (some channel.id)
          (post.messageCreatedData mentions channel) post.timestamp) = true :=
      messagesObserver_allows
    rw [hstep]
    refine ⟨_, List.mem_singleton_self _, not_confined_of_allows ?_ hallows⟩
    simpa only [Store.isDm, Store.channelById?, Post.row] using hisDm
  | _ => simp [Request.entersDmByName] at hname

/-! ### The text of a request -/

/-- The channel the request stores a message in. -/
def Request.target? (s : Store) : Request → Option String
  | .postMessage channelName _ => (s.channel? channelName).map (·.id)
  | .postReply parentId _ => (s.message? parentId).map (·.channelId)
  | .sendDm pairKey _ _ => (s.conversation? ("dm_" ++ pairKey)).map (·.channelId)
  | .postGroupMessage conversationId _ => (s.conversation? conversationId).map (·.channelId)
  | _ => none

/-- The request with another text. -/
def Request.withText (text : String) : Request → Request
  | .postMessage channelName post => .postMessage channelName { post with text := text }
  | .postReply parentId post => .postReply parentId { post with text := text }
  | .sendDm pairKey recipient post => .sendDm pairKey recipient { post with text := text }
  | .postGroupMessage conversationId post =>
    .postGroupMessage conversationId { post with text := text }
  | r => r

/-- The request without its text, if it stores a direct message. -/
def Request.redact (s : Store) (r : Request) : Request :=
  if (r.target? s).any s.isDm then r.withText "" else r

lemma target?_withText (r : Request) (text : String) :
    (r.withText text).target? s = r.target? s := by
  cases r <;> rfl

lemma entersDmByName_withText (r : Request) (text : String) :
    (r.withText text).entersDmByName s = r.entersDmByName s := by
  cases r <;> rfl

/-- The text of a request does not matter to the tables. -/
lemma tables_withText (r : Request) (text : String) :
    (step eventId mentions s (r.withText text)).1 = (step eventId mentions s r).1 := by
  cases r with
  | postMessage channelName post =>
    simp only [Request.withText, step, handle, postMessage, Post.row]
    cases s.channel? channelName with
    | none => rfl
    | some channel =>
      simp only [Option.bind_eq_bind, Option.bind_some]
      cases s.insertMessage _ <;> rfl
  | postReply parentId post =>
    simp only [Request.withText, step, handle, postReply, Post.row]
    cases s.message? parentId with
    | none => rfl
    | some parent =>
      simp only [Option.bind_eq_bind, Option.bind_some]
      cases s.insertMessage _ <;> rfl
  | sendDm pairKey recipient post =>
    simp only [Request.withText, step, handle, sendDm, Post.row]
    cases s.conversation? ("dm_" ++ pairKey) with
    | none => rfl
    | some conv =>
      simp only [Option.bind_eq_bind, Option.bind_some]
      cases s.insertMessage _ <;> rfl
  | postGroupMessage conversationId post =>
    simp only [Request.withText, step, handle, postGroupMessage, Post.row]
    split
    · cases s.conversation? conversationId with
      | none => rfl
      | some conv =>
        simp only [Option.bind_eq_bind, Option.bind_some]
        cases s.insertMessage _ <;> rfl
    · rfl
  | _ => rfl

lemma target?_redact (r : Request) : (r.redact s).target? s = r.target? s := by
  unfold Request.redact
  split
  · exact target?_withText r ""
  · rfl

lemma entersDmByName_redact (r : Request) :
    (r.redact s).entersDmByName s = r.entersDmByName s := by
  unfold Request.redact
  split
  · exact entersDmByName_withText r ""
  · rfl

lemma tables_redact (r : Request) :
    (step eventId mentions s (r.redact s)).1 = (step eventId mentions s r).1 := by
  unfold Request.redact
  split
  · exact tables_withText r ""
  · rfl

/-- What is published about a stored message is about one in the channel it is stored in. -/
lemma published_target {r : Request} {channelId : String} (htarget : r.target? s = some channelId)
    {p : Published} (hp : p ∈ (step eventId mentions s r).2) :
    p.message.channelId = channelId ∧
      (step eventId mentions s r).1.channels = s.channels := by
  have hnone : ∀ {o : Option Outcome}, p ∈ (o.getD (s, [])).2 → ∃ o', o = some o' ∧ p ∈ o'.2 := by
    intro o ho
    cases o with
    | none => simp at ho
    | some o' => exact ⟨o', rfl, ho⟩
  obtain ⟨o, ho, hp⟩ := hnone hp
  rw [step, ho, Option.getD_some]
  cases r with
  | postMessage channelName post =>
    simp only [handle, postMessage, Option.bind_eq_bind, Option.bind_eq_some_iff,
      Option.some.injEq] at ho
    obtain ⟨channel, hchannel, s', hs, rfl⟩ := ho
    obtain rfl := List.mem_singleton.mp hp
    simp only [Request.target?, hchannel, Option.map_some, Option.some.injEq] at htarget
    exact ⟨htarget, (tables_insertMessage hs).1⟩
  | postReply parentId post =>
    simp only [handle, postReply, Option.bind_eq_bind, Option.bind_eq_some_iff,
      Option.some.injEq] at ho
    obtain ⟨parent, hparent, s', hs, rfl⟩ := ho
    obtain rfl := List.mem_singleton.mp hp
    simp only [Request.target?, hparent, Option.map_some, Option.some.injEq] at htarget
    exact ⟨htarget, (tables_insertMessage hs).1⟩
  | sendDm pairKey recipient post =>
    simp only [handle, sendDm, Option.bind_eq_bind, Option.bind_eq_some_iff,
      Option.some.injEq] at ho
    obtain ⟨conv, hconv, s', hs, rfl⟩ := ho
    obtain rfl := List.mem_singleton.mp hp
    simp only [Request.target?, hconv, Option.map_some, Option.some.injEq] at htarget
    exact ⟨htarget, (tables_insertMessage hs).1⟩
  | postGroupMessage conversationId post =>
    simp only [handle, postGroupMessage] at ho
    split at ho
    · simp only [Option.bind_eq_bind, Option.bind_eq_some_iff, Option.some.injEq] at ho
      obtain ⟨conv, hconv, s', hs, rfl⟩ := ho
      obtain rfl := List.mem_singleton.mp hp
      simp only [Request.target?, hconv, Option.map_some, Option.some.injEq] at htarget
      exact ⟨htarget, (tables_insertMessage hs).1⟩
    · simp at ho
  | _ => simp [Request.target?] at htarget

/-- The token has access to no conversation. -/
def Blind (observer : ObserverToken) : Prop := ∀ conversationId, ¬ DmAccess observer conversationId

/-- What an observer receives of published events. -/
def seen (parseDate : String → Option ℤ) (observer : ObserverToken) (events : List Published) :
    List Record :=
  (events.map (·.event)).filter (observerAllowsEvent parseDate observer)

/-- A blind observer receives nothing of a request that stores a direct message. -/
lemma seen_eq_nil (h : Placed s) {r : Request} (hname : r.entersDmByName s = false)
    (hdm : (r.target? s).any s.isDm = true) {observer : ObserverToken} (hblind : Blind observer)
    (parseDate : String → Option ℤ) :
    seen parseDate observer (step eventId mentions s r).2 = [] := by
  obtain ⟨channelId, htarget, hisDm⟩ := (Option.any_eq_true _ _).mp hdm
  rw [seen, List.filter_eq_nil_iff]
  intro event hevent hallows
  obtain ⟨p, hp, rfl⟩ := List.mem_map.mp hevent
  obtain ⟨rfl, hchannels⟩ := published_target htarget hp
  have hisDm' : (step eventId mentions s r).1.isDm p.message.channelId = true := by
    rw [Store.isDm, Store.channelById?, hchannels]
    exact hisDm
  obtain ⟨v, -, haccess⟩ := (step_leaves h hname).confined p hp hisDm' parseDate observer hallows
  exact hblind v.id haccess

/-- **One step of two histories** that differ in the text of direct messages. -/
lemma seen_congr (h : Placed s) {r r' : Request} (hname : r.entersDmByName s = false)
    (hsame : r.redact s = r'.redact s) {observer : ObserverToken} (hblind : Blind observer)
    (parseDate : String → Option ℤ) :
    seen parseDate observer (step eventId mentions s r).2 =
      seen parseDate observer (step eventId mentions s r').2 := by
  have htarget : r.target? s = r'.target? s := by
    rw [← target?_redact r, hsame, target?_redact r']
  have hname' : r'.entersDmByName s = false := by
    rw [← entersDmByName_redact r', ← hsame, entersDmByName_redact r, hname]
  by_cases hdm : (r.target? s).any s.isDm = true
  · rw [seen_eq_nil h hname hdm hblind, seen_eq_nil h hname' (htarget ▸ hdm) hblind]
  · have hdm' : ¬ (r'.target? s).any s.isDm = true := htarget ▸ hdm
    rw [Request.redact, if_neg hdm, Request.redact, if_neg hdm'] at hsame
    rw [hsame]

end Step

/-! ## Histories -/

section Histories

variable (eventId : Option String → String) (mentions : String → List String)

/-- The outcomes of a history, one request after the other. -/
def outcomes (s : Store) : List Request → List Outcome
  | [] => []
  | r :: history =>
    step eventId mentions s r :: outcomes (step eventId mentions s r).1 history

/-- What is published along a history. -/
def stream (s : Store) (history : List Request) : List Published :=
  (outcomes eventId mentions s history).flatMap (·.2)

/-- The histories ask for the same, up to the text of direct messages. -/
def SameButDmText (s : Store) : List Request → List Request → Prop
  | [], [] => True
  | r :: history, r' :: history' =>
    r.redact s = r'.redact s ∧ SameButDmText (step eventId mentions s r).1 history history'
  | _, _ => False

/-- No request of the history posts to the channel of a conversation by name. -/
def EntersNoDmByName (s : Store) : List Request → Prop
  | [] => True
  | r :: history =>
    r.entersDmByName s = false ∧ EntersNoDmByName (step eventId mentions s r).1 history

/-- The direct messages of the history are confidential on the stream. -/
structure StreamConfidential (s : Store) (history : List Request) : Prop where
  confined : ∀ o ∈ outcomes eventId mentions s history, ∀ p ∈ o.2, o.1.Confined p
  textHidden : ∀ history', SameButDmText eventId mentions s history history' →
    ∀ observer, Blind observer → ∀ parseDate,
      seen parseDate observer (stream eventId mentions s history) =
        seen parseDate observer (stream eventId mentions s history')

variable {eventId mentions} {s : Store}

lemma seen_stream_cons (parseDate : String → Option ℤ) (observer : ObserverToken) (r : Request)
    (history : List Request) :
    seen parseDate observer (stream eventId mentions s (r :: history)) =
      seen parseDate observer (step eventId mentions s r).2 ++
        seen parseDate observer (stream eventId mentions (step eventId mentions s r).1 history) := by
  simp [seen, stream, outcomes]

/-- Every event of a history that enters no conversation by name is confined. -/
lemma confined_of_entersNoDmByName (h : Placed s) {history : List Request}
    (hnames : EntersNoDmByName eventId mentions s history) :
    ∀ o ∈ outcomes eventId mentions s history, ∀ p ∈ o.2, o.1.Confined p := by
  induction history generalizing s with
  | nil => simp [outcomes]
  | cons r history ih =>
    obtain ⟨hname, hrest⟩ := hnames
    have hstep : Leaves s (step eventId mentions s r) := step_leaves h hname
    intro o ho
    rcases List.mem_cons.mp ho with rfl | ho
    · exact hstep.confined
    · exact ih hstep.placed hrest o ho

/-- Two such histories look the same to a blind observer. -/
lemma seen_stream_congr (h : Placed s) {history history' : List Request}
    (hnames : EntersNoDmByName eventId mentions s history)
    (hsame : SameButDmText eventId mentions s history history') {observer : ObserverToken}
    (hblind : Blind observer) (parseDate : String → Option ℤ) :
    seen parseDate observer (stream eventId mentions s history) =
      seen parseDate observer (stream eventId mentions s history') := by
  induction history generalizing s history' with
  | nil =>
    cases history' with
    | nil => rfl
    | cons r' history' => exact hsame.elim
  | cons r history ih =>
    cases history' with
    | nil => exact hsame.elim
    | cons r' history' =>
      obtain ⟨hname, hrest⟩ := hnames
      obtain ⟨hredact, hsame⟩ := hsame
      have htables : (step eventId mentions s r).1 = (step eventId mentions s r').1 := by
        rw [← tables_redact r, hredact, tables_redact r']
      have hstep : Leaves s (step eventId mentions s r) := step_leaves h hname
      rw [seen_stream_cons, seen_stream_cons, seen_congr h hname hredact hblind, ← htables,
        ih hstep.placed hrest hsame]

/-- A history whose events are all confined enters no conversation by name. -/
lemma entersNoDmByName_of_confined {history : List Request}
    (h : ∀ o ∈ outcomes eventId mentions s history, ∀ p ∈ o.2, o.1.Confined p) :
    EntersNoDmByName eventId mentions s history := by
  induction history generalizing s with
  | nil => trivial
  | cons r history ih =>
    refine ⟨?_, ih fun o ho => h o (List.mem_cons_of_mem _ ho)⟩
    by_contra hname
    have hleaks : ∃ p ∈ (step eventId mentions s r).2,
        ¬ (step eventId mentions s r).1.Confined p :=
      not_confined_of_entersDmByName (by simpa using hname)
    obtain ⟨p, hp, hleak⟩ := hleaks
    exact hleak (h _ List.mem_cons_self p hp)

lemma placed_empty : Placed .empty where
  channelOfMessage m hm := absurd hm (Table.not_mem_empty m)
  channelOfConversation v hv := absurd hv (Table.not_mem_empty v)
  named v hv := absurd hv (Table.not_mem_empty v)
  shape v hv := absurd hv (Table.not_mem_empty v)
  alone v hv := absurd hv (Table.not_mem_empty v)
  conversed m hm := absurd hm (Table.not_mem_empty m)

variable (eventId mentions)

/-- Two agents have a conversation, and a third posts to its channel by name. -/
def postToDmChannel : List Request :=
  [.insertDmChannel "ab", .insertDmConversation "ab" "a" "b",
    .postMessage "dm-ab" ⟨"1", ⟨"c", "carol"⟩, "hello", .null, [], [], none, none,
      "2026-01-01T00:00:00.000Z", "2026-01-01T00:00:00.000Z"⟩]

end Histories

end Observer
