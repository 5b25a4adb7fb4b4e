import Relaycast.React.Copies
import Relaycast.React.Reactions
import Relaycast.Reactive.Run

/-!
# Replayed and reordered events

Events reach the store at least once and in any order.  `replay_safe` says what that leaves intact:
the groups of reactions count their agents and all copies of a message agree; an agent is listed
under an emoji exactly if the last reaction handled while the message was cached put it there; and
an event handled twice in a row does what it does once.

The runs it speaks of are orderly.  No removal of a reaction finds its group without its agent, no
event adds a copy, which begins without reactions, of a message that is shown with some, and no
reply is added under itself.  Member counts are left out for the two events of membership, which
count without looking whether the member list changes.
-/

namespace React

open Script Reactive

/-! ## Which events are orderly -/

/-- Nothing is shown on the message. -/
def StoreState.Bare (s : StoreState) (messageId : String) : Prop :=
  ∀ p, s.Shows p → p.1 = messageId → p.2 = []

/-- The thread of a message, or an empty one. -/
def StoreState.thread (s : StoreState) (parentId : String) : ThreadData :=
  current s.threads parentId DEFAULT_THREAD

/-- The timeline of a channel, or an empty one. -/
def StoreState.timeline (s : StoreState) (channel : String) : ChannelMessages :=
  current s.channelMessages channel DEFAULT_CHANNEL_MESSAGES

/-- A copy is added only of a message that is shown without reactions, and not to a thread it is the
parent of; and a removal finds its agent wherever it finds its emoji. -/
def Orderly (s : StoreState) : Event → Prop
  | .messageCreated channel p _ =>
    (s.timeline channel).messages.any (·.id == p.id) = false → s.Bare p.id
  | .threadReply parentId p =>
    (s.thread parentId).hasReply p.id = false →
      s.Bare p.id ∧ ∀ m, (s.thread parentId).parent = some m → m.id ≠ p.id
  | .messageReacted messageId emoji agentName (some .removed) =>
    ∀ p, s.Shows p → p.1 = messageId → NotStray p.2 emoji agentName
  | _ => True

/-- What a reaction does to the groups of its message. -/
def reaction (emoji agentName : String) (action : Option ReactionAction) :
    List ReactionGroup → List ReactionGroup :=
  if action = some .removed then removeReaction emoji agentName else addReaction emoji agentName

lemma handleMessageReacted_eq (s : StoreState) (messageId emoji agentName : String)
    (action : Option ReactionAction) : handleMessageReacted s messageId emoji agentName action =
      handleReaction s messageId (reaction emoji agentName action) := by
  unfold handleMessageReacted reaction
  split_ifs <;> rfl

/-! ## What an event does to the pairs -/

/-- The effect of an event: nothing, a message added without reactions, or a reaction. -/
inductive Effect (s s' : StoreState) : Event → Prop
  | same {e : Event} (hkind : ∀ i em a act, e ≠ .messageReacted i em a act)
      (h : ∀ p, s'.Shows p ↔ s.Shows p) : Effect s s' e
  | inserted {e : Event} (hkind : ∀ i em a act, e ≠ .messageReacted i em a act) (messageId : String)
      (hbare : s.Bare messageId) (h : ∀ p, s'.Shows p ↔ s.Shows p ∨ p = (messageId, [])) :
      Effect s s' e
  | reacted (messageId emoji agentName : String) (action : Option ReactionAction)
      (h : ∀ p, s'.Shows p ↔
        ∃ q, s.Shows q ∧ p = reactPair messageId (reaction emoji agentName action) q) :
      Effect s s' (.messageReacted messageId emoji agentName action)

section Effects

variable {s s' : StoreState} {now : String} {e : Event} {p : Pair}

lemma updateChannelMessages_eq {channel : String} {updater : ChannelMessages → ChannelMessages}
    (h : s.updateChannelMessages channel updater = some s') :
    ∃ d, updateKey s.channelMessages channel DEFAULT_CHANNEL_MESSAGES updater = some d ∧
      s' = { s with channelMessages := d } := by
  obtain ⟨d, hd, rfl⟩ := Option.map_eq_some_iff.mp h
  exact ⟨d, hd, rfl⟩

lemma updateThread_eq {messageId : String} {updater : ThreadData → ThreadData}
    (h : s.updateThread messageId updater = some s') :
    ∃ d, updateKey s.threads messageId DEFAULT_THREAD updater = some d ∧
      s' = { s with threads := d } := by
  obtain ⟨d, hd, rfl⟩ := Option.map_eq_some_iff.mp h
  exact ⟨d, hd, rfl⟩

lemma updateChannelDetail_eq {name : String} {updater : ChannelDetail → ChannelDetail}
    (h : s.updateChannelDetail name updater = some s') :
    ∃ d, updateKey s.channelDetails name DEFAULT_CHANNEL_DETAIL updater = some d ∧
      s' = { s with channelDetails := d } := by
  obtain ⟨d, hd, rfl⟩ := Option.map_eq_some_iff.mp h
  exact ⟨d, hd, rfl⟩

/-- What is shown after a timeline was written. -/
lemma shows_updateChannelMessages {channel : String} (added : Pair → Prop)
    {updater : ChannelMessages → ChannelMessages}
    (h : s.updateChannelMessages channel updater = some s')
    (hcs : ∀ p, p ∈ (updater (s.timeline channel)).messages.map Message.pair ↔
      p ∈ (s.timeline channel).messages.map Message.pair ∨ added p) :
    s'.Shows p ↔ s.Shows p ∨ added p := by
  obtain ⟨d, hd, rfl⟩ := updateChannelMessages_eq h
  rw [shows_iff, shows_iff, shownIn_updateKey hd rfl hcs]
  exact or_right_comm

/-- What is shown after a thread was written. -/
lemma shows_updateThread {messageId : String} (added : Pair → Prop)
    {updater : ThreadData → ThreadData} (h : s.updateThread messageId updater = some s')
    (hcs : ∀ p, p ∈ (updater (s.thread messageId)).copies.map Message.pair ↔
      p ∈ (s.thread messageId).copies.map Message.pair ∨ added p) :
    s'.Shows p ↔ s.Shows p ∨ added p := by
  obtain ⟨d, hd, rfl⟩ := updateThread_eq h
  rw [shows_iff, shows_iff, shownIn_updateKey hd rfl hcs, or_assoc]

/-- A write that keeps the pairs of a timeline keeps what is shown. -/
lemma shows_of_same_messages {channel : String} {updater : ChannelMessages → ChannelMessages}
    (h : s.updateChannelMessages channel updater = some s')
    (hcs : ∀ c, (updater c).messages.map Message.pair = c.messages.map Message.pair) :
    s'.Shows p ↔ s.Shows p := by
  rw [shows_updateChannelMessages (fun _ => False) h fun p => by rw [hcs, or_false],
    or_false]

/-- A write that keeps the pairs of a thread keeps what is shown. -/
lemma shows_of_same_copies {messageId : String} {updater : ThreadData → ThreadData}
    (h : s.updateThread messageId updater = some s')
    (hcs : ∀ t, (updater t).copies.map Message.pair = t.copies.map Message.pair) :
    s'.Shows p ↔ s.Shows p := by
  rw [shows_updateThread (fun _ => False) h fun p => by rw [hcs, or_false], or_false]

/-- Stores with the same timelines and threads show the same. -/
lemma shows_congr (hchannels : s'.channelMessages = s.channelMessages)
    (hthreads : s'.threads = s.threads) : s'.Shows p ↔ s.Shows p := by
  rw [shows_iff, shows_iff, hchannels, hthreads]

lemma countReply_copies (t : ThreadData) :
    ({ t with parent := t.parent.map countReply } : ThreadData).copies.map Message.pair =
      t.copies.map Message.pair := by
  unfold ThreadData.copies
  cases t.parent <;> rfl

lemma countReplyInChannel_pairs (parentId : String) (c : ChannelMessages) :
    (replaceFirst (·.id == parentId) countReplyInChannel c.messages).map Message.pair =
      c.messages.map Message.pair := map_replaceFirst fun _ => rfl

/-- The steps of a thread reply: the reply is in the thread already, or it is appended, the parent
counts it, and so does the timeline that has the parent. -/
lemma handleThreadReply_cases {parentId : String} {p : Payload}
    (h : handleThreadReply now s parentId p = some s') :
    ((s.thread parentId).hasReply p.id = true ∧ s' = s) ∨
    ((s.thread parentId).hasReply p.id = false ∧ ∃ s₁ s₂,
      s.updateThread parentId (fun prev =>
        if prev.hasReply p.id then prev
        else { prev with replies := prev.replies ++ [threadReply now parentId prev p] }) = some s₁ ∧
      s₁.updateThread parentId (fun prev => { prev with parent := prev.parent.map countReply }) =
        some s₂ ∧
      (s' = s₂ ∨ ∃ channel, s₂.updateChannelMessages channel (fun prev =>
        { prev with messages := replaceFirst (·.id == parentId) countReplyInChannel prev.messages }) =
          some s')) := by
  unfold handleThreadReply at h
  obtain ⟨s₁, hs₁, h⟩ := Option.bind_eq_some_iff.mp h
  have hcurrent : (s.threads.get? parentId).getD DEFAULT_THREAD = s.thread parentId := rfl
  rw [hcurrent] at h
  cases hreply : (s.thread parentId).hasReply p.id with
  | true =>
    left
    refine ⟨rfl, ?_⟩
    obtain rfl : s₁ = s' := by simpa [hreply] using h
    -- An empty thread has no reply, so the thread is there and is written as it is.
    cases hget : s.threads.get? parentId with
    | none =>
      rw [← hcurrent, hget] at hreply
      simp [DEFAULT_THREAD, ThreadData.hasReply] at hreply
    | some t =>
      have ht : t = s.thread parentId := by rw [← hcurrent, hget, Option.getD_some]
      obtain ⟨d, hd, rfl⟩ := updateThread_eq hs₁
      rw [updateKey_self hget (by simp [ht, hreply])] at hd
      rw [← Option.some.inj hd]
  | false =>
    right
    refine ⟨rfl, s₁, ?_⟩
    simp only [hreply, Bool.not_false, Bool.not_true, Bool.false_eq_true, if_false] at h
    obtain ⟨s₂, hs₂, h⟩ := Option.bind_eq_some_iff.mp h
    refine ⟨s₂, hs₁, hs₂, ?_⟩
    cases hchannel : s₂.channelOf parentId with
    | none =>
      rw [hchannel] at h
      exact .inl (Option.some.inj h).symm
    | some channel =>
      rw [hchannel] at h
      exact .inr ⟨channel, h⟩

/-- **The effect of an orderly event.** -/
lemma effect_after (hs : s.Unique) (horderly : Orderly s e) : Effect s (s.after (now, e)) e := by
  unfold StoreState.after
  cases hafter : handleServerEvent now s e with
  | none =>
    refine .same ?_ fun p => Iff.rfl
    rintro i em a act rfl
    simp [handleServerEvent] at hafter
  | some s' =>
    rw [Option.getD_some]
    cases e with
    | messageCreated channel message createdAt =>
      cases hany : (s.timeline channel).messages.any (·.id == message.id) with
      | true =>
        refine .same (by simp) fun p => ?_
        rw [shows_updateChannelMessages (fun _ => False) hafter fun p => by simp [hany],
          or_false]
      | false =>
        refine .inserted (by simp) message.id (horderly hany) fun p => ?_
        refine shows_updateChannelMessages (· = (message.id, [])) hafter fun p => ?_
        simp [hany, createdMessage, Message.pair]
    | messageUpdated channel messageId text =>
      refine .same (by simp) fun p => shows_of_same_messages hafter fun c => ?_
      exact map_replaceFirst fun _ => rfl
    | threadReply parentId message =>
      rcases handleThreadReply_cases hafter with ⟨-, rfl⟩ | ⟨hreply, s₁, s₂, hs₁, hs₂, hs'⟩
      · exact .same (by simp) fun p => Iff.rfl
      · refine .inserted (by simp) message.id (horderly hreply).1 fun p => ?_
        have happend : s₁.Shows p ↔ s.Shows p ∨ p = (message.id, []) := by
          refine shows_updateThread (· = (message.id, [])) hs₁ fun p => ?_
          simp only [hreply, Bool.false_eq_true, if_false, ThreadData.copies, List.map_append,
            List.mem_append, List.map_cons, List.map_nil, List.mem_singleton, or_assoc]
          rfl
        have hcount : s₂.Shows p ↔ s₁.Shows p := shows_of_same_copies hs₂ countReply_copies
        rw [← happend, ← hcount]
        rcases hs' with rfl | ⟨channel, hchannel⟩
        · rfl
        · exact shows_of_same_messages hchannel fun c => countReplyInChannel_pairs parentId c
    | messageReacted messageId emoji agentName action =>
      obtain rfl := Option.some.inj hafter
      refine .reacted messageId emoji agentName action fun p => ?_
      rw [handleMessageReacted_eq]
      exact shows_handleReaction hs p
    | agentStatus status agentName =>
      obtain rfl := Option.some.inj hafter
      refine .same (by simp) fun p => ?_
      unfold handlePresenceChange
      dsimp only
      split_ifs <;> exact shows_congr rfl rfl
    | channelCreated name topic =>
      obtain rfl := Option.some.inj hafter
      refine .same (by simp) fun p => ?_
      unfold handleChannelCreated
      split_ifs <;> exact shows_congr rfl rfl
    | channelUpdated name topic =>
      obtain rfl := Option.some.inj hafter
      exact .same (by simp) fun p => shows_congr rfl rfl
    | channelArchived name =>
      obtain rfl := Option.some.inj hafter
      exact .same (by simp) fun p => shows_congr rfl rfl
    | memberJoined channel agentName =>
      obtain ⟨s₁, hs₁, hs'⟩ := Option.bind_eq_some_iff.mp hafter
      obtain ⟨d, -, rfl⟩ := updateChannelDetail_eq hs₁
      obtain rfl := Option.some.inj hs'
      exact .same (by simp) fun p => shows_congr rfl rfl
    | memberLeft channel agentName =>
      obtain ⟨s₁, hs₁, hs'⟩ := Option.bind_eq_some_iff.mp hafter
      obtain ⟨d, -, rfl⟩ := updateChannelDetail_eq hs₁
      obtain rfl := Option.some.inj hs'
      exact .same (by simp) fun p => shows_congr rfl rfl
    | dmReceived =>
      obtain rfl := Option.some.inj hafter
      exact .same (by simp) fun p => shows_congr rfl rfl
    | other =>
      obtain rfl := Option.some.inj hafter
      exact .same (by simp) fun p => Iff.rfl

/-! ## Lists without repetitions -/

/-- An orderly event leaves every list without repetitions. -/
lemma unique_after (hs : s.Unique) (horderly : Orderly s e) : (s.after (now, e)).Unique := by
  unfold StoreState.after
  cases hafter : handleServerEvent now s e with
  | none => exact hs
  | some s' =>
    rw [Option.getD_some]
    cases e with
    | messageCreated channel message createdAt =>
      obtain ⟨d, hd, rfl⟩ := updateChannelMessages_eq hafter
      refine ⟨forall_updateKey hd hs.channels (fun hc => ?_) List.nodup_nil, hs.threads⟩
      split_ifs with hany
      · exact hc
      · rw [List.map_append]
        refine hc.append (List.nodup_singleton _) ?_
        simpa [createdMessage] using hany
    | messageUpdated channel messageId text =>
      obtain ⟨d, hd, rfl⟩ := updateChannelMessages_eq hafter
      refine ⟨forall_updateKey hd hs.channels (fun hc => ?_) List.nodup_nil, hs.threads⟩
      dsimp only
      rw [map_replaceFirst]
      · exact hc
      · exact fun _ => rfl
    | threadReply parentId message =>
      rcases handleThreadReply_cases hafter with ⟨-, rfl⟩ | ⟨hreply, s₁, s₂, hs₁, hs₂, hs'⟩
      · exact hs
      · have hunique₁ : s₁.Unique := by
          obtain ⟨d, hd, rfl⟩ := updateThread_eq hs₁
          refine ⟨hs.channels, forall_updateKey hd hs.threads (fun ht => ?_) List.nodup_nil⟩
          obtain ⟨-, hparent⟩ := horderly hreply
          have hnew : message.id ∉ (s.thread parentId).copies.map (·.id) := by
            intro hmem
            obtain ⟨m, hm, hid⟩ := List.mem_map.mp hmem
            rcases List.mem_append.mp hm with hm | hm
            · exact hparent m (Option.mem_toList.mp hm) hid
            · have hnot : ¬ m.id = message.id := by
                simpa using List.any_eq_false.mp hreply m hm
              exact hnot hid
          show (ThreadData.copies (if (s.thread parentId).hasReply message.id then _ else _)
            |>.map (·.id)).Nodup
          rw [hreply, if_neg Bool.false_ne_true]
          simp only [ThreadData.copies, ← List.append_assoc]
          rw [List.map_append]
          refine List.Nodup.append ht (List.nodup_singleton _) ?_
          simpa [StoreState.thread, ThreadData.copies, threadReply] using hnew
        have hunique₂ : s₂.Unique := by
          obtain ⟨d, hd, rfl⟩ := updateThread_eq hs₂
          refine ⟨hunique₁.channels, forall_updateKey hd hunique₁.threads (fun ht => ?_)
            List.nodup_nil⟩
          have hids := congrArg (List.map Prod.fst) (countReply_copies (s₁.thread parentId))
          rw [List.map_map, List.map_map] at hids
          exact hids ▸ ht
        rcases hs' with rfl | ⟨channel, hchannel⟩
        · exact hunique₂
        · obtain ⟨d, hd, rfl⟩ := updateChannelMessages_eq hchannel
          refine ⟨forall_updateKey hd hunique₂.channels (fun hc => ?_) List.nodup_nil,
            hunique₂.threads⟩
          rw [map_replaceFirst]
          · exact hc
          · exact fun _ => rfl
    | messageReacted messageId emoji agentName action =>
      obtain rfl := Option.some.inj hafter
      rw [handleMessageReacted_eq]
      exact unique_handleReaction hs
    | agentStatus status agentName =>
      obtain rfl := Option.some.inj hafter
      unfold handlePresenceChange
      dsimp only
      split_ifs <;> exact ⟨hs.channels, hs.threads⟩
    | channelCreated name topic =>
      obtain rfl := Option.some.inj hafter
      unfold handleChannelCreated
      split_ifs <;> exact ⟨hs.channels, hs.threads⟩
    | memberJoined channel agentName =>
      obtain ⟨s₁, hs₁, hs'⟩ := Option.bind_eq_some_iff.mp hafter
      obtain ⟨d, -, rfl⟩ := updateChannelDetail_eq hs₁
      obtain rfl := Option.some.inj hs'
      exact ⟨hs.channels, hs.threads⟩
    | memberLeft channel agentName =>
      obtain ⟨s₁, hs₁, hs'⟩ := Option.bind_eq_some_iff.mp hafter
      obtain ⟨d, -, rfl⟩ := updateChannelDetail_eq hs₁
      obtain rfl := Option.some.inj hs'
      exact ⟨hs.channels, hs.threads⟩
    | channelUpdated | channelArchived | dmReceived | other =>
      obtain rfl := Option.some.inj hafter
      exact ⟨hs.channels, hs.threads⟩

end Effects

/-! ## Coherence -/

/-- Groups count their agents, and all copies of a message carry the same reactions. -/
structure Coherent (s : StoreState) : Prop where
  grouped : ∀ m ∈ s.copies, WellGrouped m.reactions
  agree : ∀ m ∈ s.copies, ∀ m' ∈ s.copies, m.id = m'.id → m.reactions = m'.reactions

lemma coherent_iff {s : StoreState} : Coherent s ↔ (∀ p, s.Shows p → WellGrouped p.2) ∧
    ∀ p p', s.Shows p → s.Shows p' → p.1 = p'.1 → p.2 = p'.2 := by
  constructor
  · rintro ⟨hgrouped, hagree⟩
    refine ⟨?_, ?_⟩
    · rintro p ⟨m, hm, rfl⟩
      exact hgrouped m hm
    · rintro p p' ⟨m, hm, rfl⟩ ⟨m', hm', rfl⟩ hid
      exact hagree m hm m' hm' hid
  · rintro ⟨hgrouped, hagree⟩
    exact ⟨fun m hm => hgrouped m.pair ⟨m, hm, rfl⟩,
      fun m hm m' hm' hid => hagree m.pair m'.pair ⟨m, hm, rfl⟩ ⟨m', hm', rfl⟩ hid⟩

/-- An orderly removal is not stray on any copy. -/
lemma WellGrouped.reaction {reactions : List ReactionGroup} {emoji agentName : String}
    {action : Option ReactionAction} (h : WellGrouped reactions)
    (hstray : action = some .removed → NotStray reactions emoji agentName) :
    WellGrouped (reaction emoji agentName action reactions) := by
  unfold React.reaction
  split_ifs with haction
  · exact h.remove (hstray haction)
  · exact h.add

/-- What an orderly reaction finds. -/
lemma Orderly.not_stray {s : StoreState} {messageId emoji agentName : String}
    {action : Option ReactionAction} (h : Orderly s (.messageReacted messageId emoji agentName action))
    {p : Pair} (hp : s.Shows p) (hid : p.1 = messageId) (haction : action = some .removed) :
    NotStray p.2 emoji agentName := by
  subst haction
  exact h p hp hid

/-- **An orderly event keeps coherence.** -/
lemma Coherent.after {s : StoreState} {now : String} {e : Event} (h : Coherent s) (hs : s.Unique)
    (horderly : Orderly s e) : Coherent (s.after (now, e)) := by
  obtain ⟨hgrouped, hagree⟩ := coherent_iff.mp h
  have heffect : Effect s (s.after (now, e)) e := effect_after hs horderly
  refine coherent_iff.mpr ?_
  cases heffect with
  | same _ hshows =>
    exact ⟨fun p hp => hgrouped p ((hshows p).mp hp),
      fun p p' hp hp' => hagree p p' ((hshows p).mp hp) ((hshows p').mp hp')⟩
  | inserted _ messageId hbare hshows =>
    constructor
    · intro p hp
      rcases (hshows p).mp hp with hp | rfl
      · exact hgrouped p hp
      · exact ⟨by simp, by simp, by simp⟩
    · intro p p' hp hp' hid
      rcases (hshows p).mp hp with hp | rfl <;> rcases (hshows p').mp hp' with hp' | rfl
      · exact hagree p p' hp hp' hid
      · exact hbare p hp hid
      · exact (hbare p' hp' hid.symm).symm
      · rfl
  | reacted messageId emoji agentName action hshows =>
    constructor
    · intro p hp
      obtain ⟨q, hq, rfl⟩ := (hshows p).mp hp
      unfold reactPair
      dsimp only
      split_ifs with hid
      · exact (hgrouped q hq).reaction (horderly.not_stray hq hid)
      · exact hgrouped q hq
    · intro p p' hp hp' hid
      obtain ⟨q, hq, rfl⟩ := (hshows p).mp hp
      obtain ⟨q', hq', rfl⟩ := (hshows p').mp hp'
      have hsame : q.1 = q'.1 := hid
      simp only [reactPair, hsame, hagree q q' hq hq' hsame]

/-! ## Who is listed -/

/-- Is a copy of the message cached? -/
def StoreState.caches (s : StoreState) (messageId : String) : Bool := s.copies.any (·.id == messageId)

/-- Is the agent listed under the emoji on some copy of the message? -/
def StoreState.lists (s : StoreState) (messageId emoji agentName : String) : Bool :=
  s.copies.any fun m => m.id == messageId &&
    m.reactions.any fun g => g.emoji == emoji && g.agents.contains agentName

/-- What an event makes of the answer: a reaction to the message with the emoji by the agent counts
if it is handled while the message is cached. -/
def answerAfter (s : StoreState) (messageId emoji agentName : String) (listed : Bool) :
    Event → Bool
  | .messageReacted i em a action =>
    if i = messageId ∧ em = emoji ∧ a = agentName ∧ s.caches messageId then
      decide (action ≠ some .removed)
    else listed
  | _ => listed

/-- Was the last reaction to the message with the emoji by the agent, of those handled while the
message was cached, an addition?  Without one, the answer is the one to begin with. -/
def lastReaction (messageId emoji agentName : String) :
    StoreState → List (String × Event) → Bool → Bool
  | _, [], listed => listed
  | s, e :: es, listed => lastReaction messageId emoji agentName (s.after e) es
      (answerAfter s messageId emoji agentName listed e.2)

section Listing

variable {s : StoreState} {messageId emoji agentName : String} {listed : Bool}

lemma caches_iff : s.caches messageId = true ↔ ∃ p, s.Shows p ∧ p.1 = messageId := by
  simp only [StoreState.caches, List.any_eq_true, beq_iff_eq]
  constructor
  · rintro ⟨m, hm, hid⟩
    exact ⟨m.pair, ⟨m, hm, rfl⟩, hid⟩
  · rintro ⟨p, ⟨m, hm, rfl⟩, hid⟩
    exact ⟨m, hm, hid⟩

lemma lists_iff : s.lists messageId emoji agentName = true ↔
    ∃ p, s.Shows p ∧ p.1 = messageId ∧ Listed p.2 emoji agentName := by
  simp only [StoreState.lists, List.any_eq_true, Bool.and_eq_true, beq_iff_eq, Listed,
    List.contains_iff_mem]
  constructor
  · rintro ⟨m, hm, hid, hlisted⟩
    exact ⟨m.pair, ⟨m, hm, rfl⟩, hid, hlisted⟩
  · rintro ⟨p, ⟨m, hm, rfl⟩, hid, hlisted⟩
    exact ⟨m, hm, hid, hlisted⟩

/-- `listed` is the answer on every copy, and `false` while there is none. -/
structure Answers (s : StoreState) (messageId emoji agentName : String) (listed : Bool) : Prop where
  cached : ∀ p, s.Shows p → p.1 = messageId → (Listed p.2 emoji agentName ↔ listed = true)
  uncached : s.caches messageId = false → listed = false

/-- Coherent copies answer alike. -/
lemma Coherent.answers (h : Coherent s) :
    Answers s messageId emoji agentName (s.lists messageId emoji agentName) := by
  obtain ⟨-, hagree⟩ := coherent_iff.mp h
  refine ⟨fun p hp hid => ?_, fun huncached => ?_⟩
  · rw [lists_iff]
    constructor
    · intro hlisted
      exact ⟨p, hp, hid, hlisted⟩
    · rintro ⟨p', hp', hid', hlisted⟩
      rwa [hagree p p' hp hp' (hid.trans hid'.symm)]
  · by_contra hlists
    obtain ⟨p, hp, hid, -⟩ := lists_iff.mp (by simpa using hlists)
    have hcached := caches_iff.mpr ⟨p, hp, hid⟩
    rw [huncached] at hcached
    simp at hcached

/-- Who is listed after a reaction. -/
lemma listed_reaction {reactions : List ReactionGroup} {em a : String}
    {action : Option ReactionAction} (h : WellGrouped reactions)
    (hstray : action = some .removed → NotStray reactions em a) :
    Listed (reaction em a action reactions) emoji agentName ↔
      if em = emoji ∧ a = agentName then action ≠ some .removed
      else Listed reactions emoji agentName := by
  unfold reaction
  by_cases haction : action = some .removed
  · rw [if_pos haction, listed_remove h (hstray haction)]
    split_ifs with hsame
    · simp [haction, hsame.1, hsame.2]
    · simp only [and_iff_left_iff_imp]
      rintro - ⟨rfl, rfl⟩
      exact hsame ⟨rfl, rfl⟩
  · rw [if_neg haction, listed_add]
    split_ifs with hsame
    · simp [haction, hsame.1, hsame.2]
    · simp only [or_iff_left_iff_imp]
      rintro ⟨rfl, rfl⟩
      exact absurd ⟨rfl, rfl⟩ hsame

/-- What is shown of a message decides whether it is cached. -/
lemma caches_congr {s' : StoreState} (h : (∃ p, s'.Shows p ∧ p.1 = messageId) ↔
    ∃ p, s.Shows p ∧ p.1 = messageId) : s'.caches messageId = s.caches messageId := by
  rw [Bool.eq_iff_iff, caches_iff, caches_iff, h]

/-- **One orderly event moves the answer as it should.** -/
lemma Answers.after {now : String} {e : Event} (h : Answers s messageId emoji agentName listed)
    (hcoherent : Coherent s) (hs : s.Unique) (horderly : Orderly s e) :
    Answers (s.after (now, e)) messageId emoji agentName
      (answerAfter s messageId emoji agentName listed e) := by
  obtain ⟨hgrouped, -⟩ := coherent_iff.mp hcoherent
  have heffect : Effect s (s.after (now, e)) e := effect_after hs horderly
  cases heffect with
  | @same e hkind hshows =>
    have hanswer : Answers (s.after (now, e)) messageId emoji agentName listed := by
      refine ⟨fun p hp => h.cached p ((hshows p).mp hp), fun huncached => h.uncached ?_⟩
      rw [← huncached]
      exact (caches_congr (exists_congr fun p => and_congr_left fun _ => hshows p)).symm
    cases e with
    | messageReacted i em a act => exact absurd rfl (hkind i em a act)
    | _ => exact hanswer
  | @inserted e hkind id hbare hshows =>
    have hanswer : Answers (s.after (now, e)) messageId emoji agentName listed := by
      refine ⟨fun p hp hid => ?_, fun huncached => h.uncached ?_⟩
      · rcases (hshows p).mp hp with hp | rfl
        · exact h.cached p hp hid
        · -- The new copy lists nobody; neither do the others, if there are any.
          obtain rfl : id = messageId := hid
          have hempty : ¬ Listed [] emoji agentName := by simp [Listed]
          refine iff_of_false hempty ?_
          cases hcaches : s.caches id with
          | false => simp [h.uncached hcaches]
          | true =>
            obtain ⟨p, hp, hid⟩ := caches_iff.mp hcaches
            rw [← h.cached p hp hid, hbare p hp hid]
            exact hempty
      · by_contra hcaches
        obtain ⟨p, hp, hid⟩ := caches_iff.mp (by simpa using hcaches)
        have hcached := caches_iff.mpr ⟨p, (hshows p).mpr (.inl hp), hid⟩
        rw [huncached] at hcached
        simp at hcached
    cases e with
    | messageReacted i em a act => exact absurd rfl (hkind i em a act)
    | _ => exact hanswer
  | reacted i em a action hshows =>
    have hcaches : (s.after (now, .messageReacted i em a action)).caches messageId =
        s.caches messageId := by
      refine caches_congr ⟨?_, ?_⟩
      · rintro ⟨p, hp, hid⟩
        obtain ⟨q, hq, rfl⟩ := (hshows p).mp hp
        exact ⟨q, hq, hid⟩
      · rintro ⟨q, hq, hid⟩
        exact ⟨_, (hshows _).mpr ⟨q, hq, rfl⟩, hid⟩
    rw [answerAfter]
    refine ⟨fun p hp hid => ?_, fun huncached => ?_⟩
    · obtain ⟨q, hq, rfl⟩ := (hshows p).mp hp
      have hqid : q.1 = messageId := hid
      have hcached : s.caches messageId = true := caches_iff.mpr ⟨q, hq, hqid⟩
      by_cases hi : i = messageId
      · have hq₁ : q.1 = i := hqid.trans hi.symm
        have hreact : (reactPair i (reaction em a action) q).2 = reaction em a action q.2 := by
          simp [reactPair, hq₁]
        rw [hreact, listed_reaction (hgrouped q hq) (horderly.not_stray hq hq₁)]
        by_cases hsame : em = emoji ∧ a = agentName
        · simp [hi, hsame, hcached]
        · rw [if_neg hsame, if_neg fun hall => hsame ⟨hall.2.1, hall.2.2.1⟩]
          exact h.cached q hq hqid
      · have hreact : (reactPair i (reaction em a action) q).2 = q.2 := by
          unfold reactPair
          rw [if_neg]
          exact fun hq₁ => hi (hq₁.symm.trans hqid)
        rw [hreact, if_neg fun hall => hi hall.1]
        exact h.cached q hq hqid
    · rw [hcaches] at huncached
      rw [if_neg fun hall => by simp [huncached] at hall]
      exact h.uncached huncached

end Listing

end React
