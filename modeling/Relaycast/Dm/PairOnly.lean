import Relaycast.Dm.Group
import Relaycast.Dm.Identity

/-!
# Who can be in a direct conversation

A direct conversation is reserved for a pair of agents, and `sendDm` joins nobody else to it.
`addParticipant` is meant for groups, but the conversation it is called with may be of either kind:
it asks only whether the requester is an active participant.  So either of the pair can bring in a
third agent, who reads what was written before and is sent what comes after.

`directPrivacy_of_admitted` says what holds in runs in which every agent that `addParticipant`
brings into a direct conversation is one of its pair.
-/

namespace Dm

open Relational Interleaving

/-! ## What is claimed -/

/-- Is it the conversation of a pair? -/
def Conversation.isDirect (c : Conversation) : Bool := c.dmType == "1:1"

/-- Is the agent one of the pair? -/
def Reservation.names (r : Reservation) (agentId : AgentId) : Bool :=
  r.participantOneId == agentId || r.participantTwoId == agentId

/-- The agent may be in the conversation: it is not a direct one, or it is reserved for a pair with
the agent. -/
def Store.admits (s : Store) (conversationId : ConversationId) (agentId : AgentId) : Bool :=
  !(s.conversations.rows.any fun c => c.id == conversationId && c.isDirect) ||
    s.reservations.rows.any fun r => r.conversationId == conversationId && r.names agentId

/-- Every participant whom `addParticipant` brings in, or back in, may be there. -/
def Group.admitted (w : World Group.lang Store) : Group.Stmt → Bool
  | .rejoin conversationId agentId | .insertParticipant conversationId agentId =>
    w.store.admits conversationId agentId
  | _ => true

/-- The runs in which every participant may be there. -/
def Group.Admitted : Regime Group.lang Store Group.Call where
  calls _ := True
  permits w _ q := Group.admitted w q = true
  crashes := True

/-- Direct conversations are between their two agents. -/
structure DirectPrivacy (g : Config Group.lang Store Group.Result) : Prop where
  /-- A direct conversation has its reservation. -/
  reserved : ∀ c ∈ g.world.store.conversations, c.isDirect = true →
    ∃ r ∈ g.world.store.reservations, r.conversationId = c.id
  /-- Its active participants are of the pair. -/
  roster : ∀ c ∈ g.world.store.conversations, c.isDirect = true →
    ∀ r ∈ g.world.store.reservations, r.conversationId = c.id →
      ∀ p ∈ g.world.store.participants, p.conversationId = c.id → p.left = false →
        r.names p.agentId = true
  /-- Its messages are addressed and routed to the pair. -/
  routed : ∀ c ∈ g.world.store.conversations, c.isDirect = true →
    ∀ r ∈ g.world.store.reservations, r.conversationId = c.id →
      (∀ m ∈ g.world.store.messages, m.channelId = c.channelId → r.names m.toAgentId = true) ∧
        ∀ agentId ∈ g.world.store.recipients c.channelId, r.names agentId = true
  /-- Whoever has read its messages is of the pair. -/
  read : ∀ (i : ℕ) (conversationId : ConversationId) (agentId : AgentId) (ms : List Message),
    g.threads[i]? = some ⟨.getDmMessages conversationId agentId, some (.done (.ok ms))⟩ →
      ∀ m ∈ ms, ∀ c ∈ g.world.store.conversations, c.isDirect = true → c.channelId = m.channelId →
        ∀ r ∈ g.world.store.reservations, r.conversationId = c.id → r.names agentId = true
  /-- Whoever has been shown it in a list is of the pair. -/
  listed : ∀ (i : ℕ) (agentId : AgentId) (ls : List Listing),
    g.threads[i]? = some ⟨.listConversations agentId, some (.done ls)⟩ →
      ∀ l ∈ ls, ∀ c ∈ g.world.store.conversations, c.isDirect = true →
        c.channelId = l.conversation.channelId →
          ∀ r ∈ g.world.store.reservations, r.conversationId = c.id → r.names agentId = true

namespace Store

/-! ## The invariant -/

/-- A reservation for the conversation, whose pair its active participants and the addressees of its
messages are of. -/
structure PairOnly (s : Store) (c : Conversation) (r : Reservation) : Prop where
  id_eq : r.conversationId = c.id
  active : ∀ p ∈ s.participants, p.conversationId = c.id → p.left = false →
    r.names p.agentId = true
  addressed : ∀ m ∈ s.messages, m.channelId = c.channelId → r.names m.toAgentId = true

/-- Participants and messages belong to conversations, and direct ones to their pair. -/
structure Sound (s : Store) : Prop where
  legacy : s.Legacy
  refers : ∀ p ∈ s.participants, s.hasConversation p.conversationId = true
  filed : ∀ m ∈ s.messages, ∃ c ∈ s.conversations, c.channelId = m.channelId
  direct : ∀ c ∈ s.conversations, c.isDirect = true → ∃ r ∈ s.reservations, s.PairOnly c r

/-- Reservations and conversations stay. -/
structure Keeps (s s' : Store) : Prop where
  reservations : ∀ r ∈ s.reservations, r ∈ s'.reservations
  conversations : ∀ c ∈ s.conversations, c ∈ s'.conversations

variable {s s' : Store}

lemma Keeps.refl (s : Store) : s.Keeps s := ⟨fun _ h => h, fun _ h => h⟩

lemma Keeps.trans {s₁ s₂ s₃ : Store} (h : s₁.Keeps s₂) (h' : s₂.Keeps s₃) : s₁.Keeps s₃ :=
  ⟨fun r hr => h'.reservations r (h.reservations r hr),
    fun c hc => h'.conversations c (h.conversations c hc)⟩

lemma Grows.keeps (h : s.Grows s') : s.Keeps s' := ⟨h.reservations, h.conversations⟩

lemma hasConversation_iff {id : ConversationId} :
    s.hasConversation id = true ↔ ∃ c ∈ s.conversations, c.id = id := by
  unfold hasConversation
  rw [List.any_eq_true]
  exact exists_congr fun c => and_congr_right fun _ => beq_iff_eq

lemma admits_iff {id : ConversationId} {agentId : AgentId} : s.admits id agentId = true ↔
    ((∃ c ∈ s.conversations, c.id = id ∧ c.isDirect = true) →
      ∃ r ∈ s.reservations, r.conversationId = id ∧ r.names agentId = true) := by
  unfold admits
  simp only [Bool.or_eq_true, Bool.not_eq_true', ← Bool.not_eq_true, List.any_eq_true,
    Bool.and_eq_true, beq_iff_eq]
  exact (Decidable.imp_iff_not_or).symm

/-- The reservations of one id are one. -/
lemma reservation_eq {r r' : Reservation} (hr : r ∈ s.reservations) (hr' : r' ∈ s.reservations)
    (h : r.conversationId = r'.conversationId) : r = r' := by
  refine Table.eq_of_clash hr hr' ?_
  simp [clash, key, h]

/-- Whoever is admitted to a direct conversation is of its pair. -/
lemma names_of_admits {id : ConversationId} {agentId : AgentId}
    (hadmits : s.admits id agentId = true) {c : Conversation} (hc : c ∈ s.conversations)
    (hid : c.id = id) (hdirect : c.isDirect = true) {r : Reservation} (hr : r ∈ s.reservations)
    (hrid : r.conversationId = c.id) : r.names agentId = true := by
  obtain ⟨r', hr', hrid', hnames⟩ := admits_iff.mp hadmits ⟨c, hc, hid, hdirect⟩
  rwa [reservation_eq hr hr' (hrid.trans (hid.trans hrid'.symm))]

/-- Other participants, all of whom were there or may be there. -/
lemma Sound.of_participants (h : s.Sound) {participants : Table Participant}
    (hrows : ∀ p ∈ participants, (∃ p₀ ∈ s.participants, p.conversationId = p₀.conversationId ∧
      p.agentId = p₀.agentId ∧ (p.left = false → p₀.left = false)) ∨
        (s.hasConversation p.conversationId = true ∧
          s.admits p.conversationId p.agentId = true)) :
    Sound { s with participants := participants } := by
  refine ⟨⟨h.legacy.channel, h.legacy.own, h.legacy.derived⟩, fun p hp => ?_, h.filed,
    fun c hc hdirect => ?_⟩
  · rcases hrows p hp with ⟨p₀, hp₀, hid, -, -⟩ | ⟨hthere, -⟩
    · rw [hid]
      exact h.refers p₀ hp₀
    · exact hthere
  · obtain ⟨r, hr, hpair⟩ := h.direct c hc hdirect
    refine ⟨r, hr, hpair.id_eq, fun p hp hpid hleft => ?_, hpair.addressed⟩
    rcases hrows p hp with ⟨p₀, hp₀, hid, hagent, hleft₀⟩ | ⟨-, hadmits⟩
    · rw [hagent]
      exact hpair.active p₀ hp₀ (hid.symm.trans hpid) (hleft₀ hleft)
    · exact names_of_admits hadmits hc hpid.symm hdirect hr hpair.id_eq

/-! ## The statements -/

/-- Marking a participant as there or departed, where it may be there. -/
lemma Sound.setLeft (h : s.Sound) {id : ConversationId} {agentId : AgentId} {left : Bool}
    (hadmits : left = false → s.admits id agentId = true) : (s.setLeft id agentId left).Sound := by
  refine h.of_participants fun p hp => ?_
  rcases Table.mem_update_cases hp with ⟨hp, -⟩ | ⟨p₀, hp₀, hhit, rfl⟩
  · exact .inl ⟨p, hp, rfl, rfl, fun hleft => hleft⟩
  · obtain ⟨hid, hagent⟩ : p₀.conversationId = id ∧ p₀.agentId = agentId := by simpa using hhit
    cases left with
    | true => exact .inl ⟨p₀, hp₀, rfl, rfl, by simp⟩
    | false =>
      refine .inr ⟨h.refers p₀ hp₀, ?_⟩
      show s.admits p₀.conversationId p₀.agentId = true
      rw [hid, hagent]
      exact hadmits rfl

lemma Sound.insertParticipant (h : s.Sound) (D : Driver) {id : ConversationId} {agentId : AgentId}
    (hadmits : s.admits id agentId = true) : (s.insertParticipant D id agentId).2.Sound := by
  unfold Store.insertParticipant
  dsimp only
  split_ifs with hconflict hthere
  · exact h
  · exact h
  · refine h.of_participants fun p hp => ?_
    rcases Table.mem_insertOrIgnore hp with hp | ⟨rfl, -⟩
    · exact .inl ⟨p, hp, rfl, rfl, fun hleft => hleft⟩
    · exact .inr ⟨by simpa using hthere, hadmits⟩

lemma Sound.join (h : s.Sound) (D : Driver) {id : ConversationId} {agentId : AgentId}
    (hadmits : s.admits id agentId = true) : (s.join D id agentId).2.Sound := by
  unfold Store.join
  split_ifs with hthere
  · exact h
  · refine h.of_participants fun p hp => ?_
    have hthere' : s.hasConversation id = true := by simpa using hthere
    rcases Table.mem_insertOrIgnore hp with hp | ⟨rfl, -⟩
    · rcases Table.mem_update_cases hp with ⟨hp, -⟩ | ⟨p₀, hp₀, hhit, rfl⟩
      · exact .inl ⟨p, hp, rfl, rfl, fun hleft => hleft⟩
      · obtain ⟨hid, hagent⟩ : p₀.conversationId = id ∧ p₀.agentId = agentId := by simpa using hhit
        refine .inr ⟨h.refers p₀ hp₀, ?_⟩
        show s.admits p₀.conversationId p₀.agentId = true
        rw [hid, hagent]
        exact hadmits
    · exact .inr ⟨hthere', hadmits⟩

lemma Sound.release (h : s.Sound) (p : Participant → Bool) :
    Sound { s with participants := s.participants.deleteWhere p } :=
  h.of_participants fun q hq => .inl ⟨q, (Table.mem_deleteWhere.mp hq).1, rfl, rfl, fun hleft => hleft⟩

lemma Sound.reserve (h : s.Sound) (D : Driver) (r : Reservation) : (s.reserve D r).2.Sound := by
  obtain ⟨-, -, hkept, hrest⟩ := s.reserve_spec D r
  rw [hrest]
  refine ⟨⟨h.legacy.channel, h.legacy.own, h.legacy.derived⟩, h.refers, h.filed,
    fun c hc hdirect => ?_⟩
  obtain ⟨r', hr', hpair⟩ := h.direct c hc hdirect
  exact ⟨r', hkept r' hr', hpair.id_eq, hpair.active, hpair.addressed⟩

lemma Sound.insertChannel (h : s.Sound) (D : Driver) (pairKey : String) :
    (s.insertChannel pairKey).Sound :=
  ⟨h.legacy.run D (.insertChannel pairKey), h.refers, h.filed, fun c hc hdirect => by
    obtain ⟨r, hr, hpair⟩ := h.direct c hc hdirect
    exact ⟨r, hr, hpair.id_eq, hpair.active, hpair.addressed⟩⟩

/-- A direct conversation is new to participants and messages, and its id is reserved. -/
lemma Sound.insertConversation (h : s.Sound) (D : Driver) {pairKey : String}
    (hreserved : ∃ r ∈ s.reservations, r.conversationId = conversationIdOf pairKey) :
    (s.insertConversation D pairKey).2.Sound := by
  have hlegacy := h.legacy.run D (.insertConversation pairKey)
  have hrun : (Dm.run D (.insertConversation pairKey) () s).2 =
    (s.insertConversation D pairKey).2 := rfl
  rw [hrun] at hlegacy
  unfold Store.insertConversation at hlegacy ⊢
  split_ifs at hlegacy ⊢ with hthere hchannel
  · exact h
  · exact h
  · refine ⟨hlegacy, fun p hp => ?_, fun m hm => ?_, fun c hc hdirect => ?_⟩
    · obtain ⟨c, hc, hid⟩ := hasConversation_iff.mp (h.refers p hp)
      exact hasConversation_iff.mpr ⟨c, Table.mem_insertOrIgnore_of_mem hc, hid⟩
    · obtain ⟨c, hc, hchannelId⟩ := h.filed m hm
      exact ⟨c, Table.mem_insertOrIgnore_of_mem hc, hchannelId⟩
    · rcases Table.mem_insertOrIgnore hc with hc | ⟨rfl, -⟩
      · obtain ⟨r, hr, hpair⟩ := h.direct c hc hdirect
        exact ⟨r, hr, hpair.id_eq, hpair.active, hpair.addressed⟩
      · obtain ⟨r, hr, hid⟩ := hreserved
        refine ⟨r, hr, hid, fun p hp hpid _ => ?_, fun m hm hmchannel => ?_⟩
        · -- A participant refers to a conversation that is there, and this one was not.
          have hrefers := h.refers p hp
          rw [show p.conversationId = conversationIdOf pairKey from hpid] at hrefers
          exact absurd hrefers hthere
        · -- A message is in the channel of a conversation, which would be this one.
          obtain ⟨c, hc, hchannelId⟩ := h.filed m hm
          have hderived := h.legacy.derived c hc pairKey (hchannelId.trans hmchannel)
          exact absurd (hasConversation_iff.mpr ⟨c, hc, hderived⟩) hthere

/-- A message to one of the pair. -/
lemma Sound.insertMessage (h : s.Sound) (D : Driver) {m : Message} {conv : Conversation}
    (hconv : conv ∈ s.conversations) (hchannel : conv.channelId = m.channelId)
    (hnames : conv.isDirect = true → ∃ r ∈ s.reservations, r.conversationId = conv.id ∧
      r.names m.toAgentId = true) : (s.insertMessage D m).2.Sound := by
  unfold Store.insertMessage
  split_ifs
  · exact h
  · refine ⟨⟨h.legacy.channel, h.legacy.own, h.legacy.derived⟩, h.refers, fun m' hm' => ?_,
      fun c hc hdirect => ?_⟩
    · rcases List.mem_append.mp hm' with hm' | hm'
      · exact h.filed m' hm'
      · obtain rfl := List.mem_singleton.mp hm'
        exact ⟨conv, hconv, hchannel⟩
    · obtain ⟨r, hr, hpair⟩ := h.direct c hc hdirect
      refine ⟨r, hr, hpair.id_eq, hpair.active, fun m' hm' hm'channel => ?_⟩
      rcases List.mem_append.mp hm' with hm' | hm'
      · exact hpair.addressed m' hm' hm'channel
      · obtain rfl := List.mem_singleton.mp hm'
        obtain rfl := h.legacy.own c hc conv hconv (hm'channel.symm.trans hchannel.symm)
        obtain ⟨r', hr', hid, hto⟩ := hnames hdirect
        rwa [reservation_eq hr hr' (hpair.id_eq.trans hid.symm)]

/-- Every row of a list, or ignored. -/
lemma mem_insertAll {rows : List Participant} {T : Table Participant} {p : Participant}
    (hp : p ∈ rows.foldl Table.insertOrIgnore T) : p ∈ T ∨ p ∈ rows := by
  induction rows generalizing T with
  | nil => exact .inl hp
  | cons row rows ih =>
    rcases ih hp with hp | hp
    · rcases Table.mem_insertOrIgnore hp with hp | ⟨rfl, -⟩
      · exact .inl hp
      · exact .inr List.mem_cons_self
    · exact .inr (List.mem_cons_of_mem row hp)

/-- A group is new, and so is its channel. -/
lemma Sound.insertGroup (h : s.Sound) (D : Driver) {id : ConversationId} {channelId : ChannelId}
    {participants : List AgentId} (hchannel : ∀ pairKey, channelId ≠ channelIdOf pairKey) :
    (s.insertGroup D id channelId participants).2.Sound := by
  unfold Store.insertGroup
  dsimp only
  split_ifs with hconflict
  · exact h
  simp only [Bool.or_eq_true, not_or, Bool.not_eq_true] at hconflict
  obtain ⟨⟨hchannels, hconversations⟩, -⟩ := hconflict
  have hnew : ∀ c ∈ s.conversations, c.channelId ≠ channelId := by
    intro c hc heq
    obtain ⟨ch, hch, hchid⟩ := List.any_eq_true.mp (h.legacy.channel c hc)
    have hclash := List.any_eq_false.mp hchannels ch hch
    have hchid' : ch.id = channelId := (eq_of_beq hchid).trans heq
    exact hclash (by simp [clash, key, hchid'])
  refine ⟨⟨fun c hc => ?_, fun c hc c' hc' hsame => ?_, fun c hc pairKey hkey => ?_⟩,
    fun p hp => ?_, fun m hm => ?_, fun c hc hdirect => ?_⟩
  · rcases Table.mem_insertOrIgnore hc with hc | ⟨rfl, -⟩
    · obtain ⟨ch, hch, hchid⟩ := List.any_eq_true.mp (h.legacy.channel c hc)
      exact List.any_eq_true.mpr ⟨ch, Table.mem_insertOrIgnore_of_mem hch, hchid⟩
    · exact List.any_eq_true.mpr ⟨_, Table.mem_insertOrIgnore_self hchannels, beq_self_eq_true _⟩
  · rcases Table.mem_insertOrIgnore hc with hc | ⟨rfl, -⟩ <;>
      rcases Table.mem_insertOrIgnore hc' with hc' | ⟨rfl, -⟩
    · exact h.legacy.own c hc c' hc' hsame
    · exact absurd hsame (hnew c hc)
    · exact absurd hsame.symm (hnew c' hc')
    · rfl
  · rcases Table.mem_insertOrIgnore hc with hc | ⟨rfl, -⟩
    · exact h.legacy.derived c hc pairKey hkey
    · exact absurd hkey (hchannel pairKey)
  · rcases mem_insertAll hp with hp | hp
    · obtain ⟨c, hc, hid⟩ := hasConversation_iff.mp (h.refers p hp)
      exact hasConversation_iff.mpr ⟨c, Table.mem_insertOrIgnore_of_mem hc, hid⟩
    · obtain ⟨agentId, -, rfl⟩ := List.mem_map.mp hp
      exact hasConversation_iff.mpr ⟨_, Table.mem_insertOrIgnore_self hconversations, rfl⟩
  · obtain ⟨c, hc, hchannelId⟩ := h.filed m hm
    exact ⟨c, Table.mem_insertOrIgnore_of_mem hc, hchannelId⟩
  · rcases Table.mem_insertOrIgnore hc with hc | ⟨rfl, -⟩
    · obtain ⟨r, hr, hpair⟩ := h.direct c hc hdirect
      refine ⟨r, hr, hpair.id_eq, fun p hp hpid hleft => ?_, hpair.addressed⟩
      rcases mem_insertAll hp with hp | hp
      · exact hpair.active p hp hpid hleft
      · -- The rows of the group are of the group, whose id is new.
        obtain ⟨agentId, -, rfl⟩ := List.mem_map.mp hp
        have hclash := List.any_eq_false.mp hconversations c hc
        exact absurd (beq_iff_eq.mpr hpid.symm) hclash
    · simp [Conversation.isDirect] at hdirect

end Store

namespace Group

/-- What a statement needs to find, beside what a regime asks of it. -/
def Stmt.Finds (s : Store) : Stmt → Prop
  | .direct (.insertConversation pairKey) =>
    ∃ r ∈ s.reservations, r.conversationId = conversationIdOf pairKey
  | .direct (.join conversationId agentId) => s.admits conversationId agentId = true
  | .direct (.insertMessage m) => ∃ conv ∈ s.conversations, conv.channelId = m.channelId ∧
    (conv.isDirect = true → ∃ r ∈ s.reservations, r.conversationId = conv.id ∧
      r.names m.toAgentId = true)
  | .insertGroup _ channelId _ => ∀ pairKey, channelId ≠ channelIdOf pairKey
  | _ => True

variable {D : Driver} {w : World lang Store} {i : ℕ}

/-- **Every admitted statement that finds what it needs keeps the invariant.** -/
lemma sound_after (q : Stmt) (a : q.Answer) (h : w.store.Sound) (hfinds : q.Finds w.store)
    (hadmitted : admitted w q = true) : (w.after (machine D) i q a).store.Sound := by
  show (run D q a w.store).2.Sound
  cases q with
  | direct q =>
    cases q with
    | reserve => exact h.reserve D _
    | insertChannel pairKey => exact h.insertChannel D pairKey
    | insertConversation pairKey => exact h.insertConversation D hfinds
    | join id agentId => exact h.join D hfinds
    | getConversation => exact h
    | insertMessage m =>
      obtain ⟨conv, hconv, hchannel, hnames⟩ := hfinds
      exact h.insertMessage D hconv hchannel hnames
  | insertGroup => exact h.insertGroup D hfinds
  | rejoin => exact h.setLeft fun _ => hadmitted
  | insertParticipant => exact h.insertParticipant D hadmitted
  | leave => exact h.setLeft fun hleft => by simp at hleft
  | release agentId => exact h.release _
  | _ => exact h

/-- No statement takes a reservation or a conversation back. -/
lemma keeps_after (q : Stmt) (a : q.Answer) :
    w.store.Keeps (w.after (machine D) i q a).store := by
  show w.store.Keeps (run D q a w.store).2
  cases q with
  | direct q => exact (Store.grows_run D q w.store).keeps
  | insertGroup =>
    show w.store.Keeps (w.store.insertGroup D _ _ _).2
    unfold Store.insertGroup
    dsimp only
    split_ifs
    · exact .refl _
    · exact ⟨fun _ h => h, fun _ h => Table.mem_insertOrIgnore_of_mem h⟩
  | insertParticipant =>
    show w.store.Keeps (w.store.insertParticipant D _ _).2
    unfold Store.insertParticipant
    dsimp only
    split_ifs <;> exact ⟨fun _ h => h, fun _ h => h⟩
  | _ => exact ⟨fun _ h => h, fun _ h => h⟩

/-- What calls share. -/
def shared : Shared lang Store where
  inv w := w.store.Sound
  grows w w' := w.store.Keeps w'.store
  refl w := .refl w.store
  trans _ _ _ h h' := h.trans h'

lemma shared_after (q : Stmt) (a : q.Answer) (h : w.store.Sound) (hfinds : q.Finds w.store)
    (hadmitted : admitted w q = true) : shared.inv (w.after (machine D) i q a) ∧
      shared.grows w (w.after (machine D) i q a) :=
  ⟨sound_after q a h hfinds hadmitted, keeps_after q a⟩

/-- Does the statement need to find nothing? -/
def Stmt.needsNothing : Stmt → Bool
  | .direct (.insertConversation _) | .direct (.join ..) | .direct (.insertMessage _)
  | .insertGroup .. => false
  | _ => true

lemma Stmt.finds_of_needsNothing {q : Stmt} {s : Store} (h : q.needsNothing = true) :
    q.Finds s := by
  cases q with
  | direct q =>
    cases q with
    | insertConversation | join | insertMessage => simp [needsNothing] at h
    | _ => trivial
  | insertGroup => simp [needsNothing] at h
  | _ => trivial

/-- What a program keeps whose statements need to find nothing. -/
lemma safe_of_needsNothing {α : Type} {p : Prog lang α}
    (hp : p.Issues fun q : Stmt => q.needsNothing = true) (w : World lang Store) :
    shared.Safe (machine D) Admitted.permits i (fun _ _ => True) p w :=
  Shared.Safe.of_issues hp
    (fun _ q hq hI hpermits a => shared_after q a hI (Stmt.finds_of_needsNothing hq) hpermits) w

/-! ## The calls -/

lemma addParticipant_issues (conversationId : ConversationId) (agentId : AgentId) (name : String) :
    (addParticipant conversationId agentId name).Issues
      fun q : Stmt => q.needsNothing = true := by
  refine Prog.issues_ask_bind rfl fun requester => ?_
  refine Prog.issues_ite (fun _ => trivial) fun _ => ?_
  refine Prog.issues_ask_bind rfl fun invitee => ?_
  cases invitee with
  | none => trivial
  | some inviteeId =>
    refine Prog.issues_ask_bind rfl fun existing => ?_
    cases existing with
    | some p =>
      exact Prog.issues_ite (fun _ => trivial) fun _ => Prog.issues_ask_bind rfl fun _ => trivial
    | none =>
      refine Prog.issues_ask_bind rfl fun inserted => ?_
      cases inserted <;> trivial

lemma removeParticipant_issues (conversationId : ConversationId) (agentId : AgentId) :
    (removeParticipant conversationId agentId).Issues
      fun q : Stmt => q.needsNothing = true := by
  refine Prog.issues_ask_bind rfl fun participant => ?_
  exact Prog.issues_ite (fun _ => trivial) fun _ => Prog.issues_ask_bind rfl fun _ => trivial

lemma findAgents_issues (names : List String) :
    (findAgents names).Issues fun q : Stmt => q.needsNothing = true := by
  induction names with
  | nil => trivial
  | cons name names ih =>
    refine Prog.issues_ask_bind rfl fun agent => ?_
    cases agent with
    | none => trivial
    | some agentId =>
      refine ih.bind fun rest => ?_
      cases rest <;> trivial

/-- The digits of a number are no channel derived from a key. -/
lemma toString_ne_channelIdOf (n : ℕ) (pairKey : String) : toString n ≠ channelIdOf pairKey := by
  intro h
  have hmem : 'd' ∈ (toString n).toList := by
    rw [h, channelIdOf, String.toList_append]
    simp
  have hdigit := Nat.isDigit_of_mem_toDigits (b := 10) (by omega) (by omega) (c := 'd') (n := n)
    (by simpa using hmem)
  simp at hdigit

lemma createGroupDm_safe (creatorAgentId : AgentId) (participants : List String)
    (w : World lang Store) : shared.Safe (machine D) Admitted.permits i (fun _ _ => True)
      (createGroupDm creatorAgentId participants) w := by
  refine (safe_of_needsNothing (findAgents_issues participants) w).then fun agents w' _ => ?_
  cases agents with
  | error e => trivial
  | ok agentIds =>
    refine Shared.Safe.ask fun w₀ _ _ hI₀ hpermits a =>
      ⟨shared_after .generateId a hI₀ trivial hpermits, fun conversationId _ => ?_⟩
    refine Shared.Safe.ask fun w₁ _ _ hI₁ hpermits n =>
      ⟨shared_after .generateId n hI₁ trivial hpermits, fun channelId hchannelId => ?_⟩
    obtain rfl : channelId = toString n := hchannelId
    refine Shared.Safe.ask fun w₂ _ _ hI₂ hpermits a =>
      ⟨shared_after (.insertGroup ..) a hI₂ (toString_ne_channelIdOf n) hpermits,
        fun inserted _ => ?_⟩
    cases inserted <;> trivial

/-- The id is reserved for a pair with both agents. -/
def ReservedFor (s : Store) (id : ConversationId) (a b : AgentId) : Prop :=
  ∃ r ∈ s.reservations, r.conversationId = id ∧ r.names a = true ∧ r.names b = true

lemma ReservedFor.keep {s s' : Store} {id : ConversationId} {a b : AgentId}
    (h : ReservedFor s id a b) (hkeeps : s.Keeps s') : ReservedFor s' id a b := by
  obtain ⟨r, hr, hrow⟩ := h
  exact ⟨r, hkeeps.reservations r hr, hrow⟩

/-- Both agents of a reservation may be in its conversation. -/
lemma ReservedFor.admits {s : Store} {id : ConversationId} {a b : AgentId}
    (h : ReservedFor s id a b) : s.admits id a = true ∧ s.admits id b = true := by
  obtain ⟨r, hr, hid, ha, hb⟩ := h
  exact ⟨Store.admits_iff.mpr fun _ => ⟨r, hr, hid, ha⟩,
    Store.admits_iff.mpr fun _ => ⟨r, hr, hid, hb⟩⟩

/-- A reservation of the pair's tuple names both. -/
lemma names_of_tuple {r : Reservation} {id : ConversationId} {workspaceId : WorkspaceId}
    {a b : AgentId} (h : r.tuple = (Store.reservationOf id workspaceId a b).tuple) :
    r.names a = true ∧ r.names b = true := by
  obtain ⟨-, hone, htwo⟩ : r.workspaceId = workspaceId ∧ r.participantOneId = min a b ∧
      r.participantTwoId = max a b := by
    simpa [Reservation.tuple, Store.reservationOf, sortedPair] using h
  unfold Reservation.names
  rw [hone, htwo]
  rcases le_total a b with hab | hab <;> simp [hab]

lemma resolveOrReserve_safe (id : ConversationId) (workspaceId : WorkspaceId) (a b : AgentId)
    (w : World lang Store) : shared.Safe (machine D) Admitted.permits i
      (fun result w => result = .ok () → ReservedFor w.store id a b)
      (direct (resolveOrReserveConversation id workspaceId a b)) w := by
  refine Shared.Safe.ask fun w₀ _ _ hI₀ hpermits ans =>
    ⟨shared_after (.direct (.reserve id workspaceId a b)) ans hI₀ trivial hpermits,
      fun reply hreply => ?_⟩
  obtain ⟨hreserved, -, -, -⟩ :=
    w₀.store.reserve_spec D (Store.reservationOf id workspaceId a b)
  rcases reply with chain | _ | id'
  · intro hresult
    simp at hresult
  · intro hresult
    simp at hresult
  · intro _
    obtain ⟨r, hr, hid, htuple⟩ := hreserved id' hreply.symm
    exact ⟨r, hr, hid, names_of_tuple htuple⟩

/-- What `insertDmRows` leaves: a conversation that is there, of the reserved id. -/
def Resolved (s : Store) (id : ConversationId) (a b : AgentId) (conv : Conversation) : Prop :=
  conv ∈ s.conversations ∧ conv.id = id ∧ ReservedFor s id a b

lemma insertDmRows_safe (pairKey : String) (a b : AgentId) {w : World lang Store}
    (hreserved : ReservedFor w.store (conversationIdOf pairKey) a b) :
    shared.Safe (machine D) Admitted.permits i
      (fun result w => ∀ conv, result = .ok conv →
        Resolved w.store (conversationIdOf pairKey) a b conv)
      (direct (insertDmRows pairKey a b)) w := by
  have herror : ∀ (e : Thrown) (w : World lang Store),
      ∀ conv, (.error e : Except Thrown Conversation) = .ok conv →
        Resolved w.store (conversationIdOf pairKey) a b conv := by
    intro e w conv h
    simp at h
  refine Shared.Safe.ask fun w₀ _ hk₀ hI₀ hpermits ans =>
    ⟨shared_after (.direct (.insertChannel pairKey)) ans hI₀ trivial hpermits, fun _ _ => ?_⟩
  have h₀ := (hreserved.keep hk₀).keep
    (keeps_after (D := D) (i := i) (.direct (.insertChannel pairKey)) ans)
  refine Shared.Safe.ask fun w₁ _ hk₁ hI₁ hpermits ans => ?_
  have h₁ := h₀.keep hk₁
  have hfinds₁ : ∃ r ∈ w₁.store.reservations, r.conversationId = conversationIdOf pairKey := by
    obtain ⟨r, hr, hid, -⟩ := h₁
    exact ⟨r, hr, hid⟩
  refine ⟨shared_after (.direct (.insertConversation pairKey)) ans hI₁ hfinds₁ hpermits,
    fun inserted _ => ?_⟩
  cases inserted with
  | error chain => exact herror _ _
  | ok =>
    have h₁' := h₁.keep (keeps_after (D := D) (i := i) (.direct (.insertConversation pairKey)) ans)
    refine Shared.Safe.ask fun w₂ _ hk₂ hI₂ hpermits ans => ?_
    have h₂ := h₁'.keep hk₂
    refine ⟨shared_after (.direct (.join (conversationIdOf pairKey) a)) ans hI₂ h₂.admits.1
      hpermits, fun joined _ => ?_⟩
    cases joined with
    | error chain => exact herror _ _
    | ok =>
      have h₂' := h₂.keep
        (keeps_after (D := D) (i := i) (.direct (.join (conversationIdOf pairKey) a)) ans)
      refine Shared.Safe.ask fun w₃ _ hk₃ hI₃ hpermits ans => ?_
      have h₃ := h₂'.keep hk₃
      refine ⟨shared_after (.direct (.join (conversationIdOf pairKey) b)) ans hI₃ h₃.admits.2
        hpermits, fun joined _ => ?_⟩
      cases joined with
      | error chain => exact herror _ _
      | ok =>
        have h₃' := h₃.keep
          (keeps_after (D := D) (i := i) (.direct (.join (conversationIdOf pairKey) b)) ans)
        refine Shared.Safe.ask fun w₄ _ hk₄ hI₄ hpermits ans =>
          ⟨shared_after (.direct (.getConversation (conversationIdOf pairKey))) ans hI₄ trivial
            hpermits, fun conv hconv => ?_⟩
        cases conv with
        | none => exact herror _ _
        | some conv =>
          have hfound : w₄.store.conversations.rows.find?
              (fun c => c.id == conversationIdOf pairKey) = some conv := hconv.symm
          intro conv' hconv'
          obtain rfl := Except.ok.inj hconv'
          exact ⟨List.mem_of_find?_eq_some hfound, by simpa using List.find?_some hfound,
            h₃'.keep hk₄⟩

lemma resolveConversation_safe (sha256Hex : String → String) (workspaceId : WorkspaceId)
    (a b : AgentId) (w : World lang Store) : shared.Safe (machine D) Admitted.permits i
      (fun result w => ∀ conv, result = .ok conv → ∃ id, Resolved w.store id a b conv)
      (direct (resolveConversation sha256Hex workspaceId a b)) w := by
  unfold resolveConversation direct
  dsimp only
  rw [Prog.embed_bind]
  refine (resolveOrReserve_safe _ workspaceId a b w).then fun result w' hreserved => ?_
  cases result with
  | error e =>
    intro conv hconv
    simp at hconv
  | ok =>
    refine (insertDmRows_safe _ a b (hreserved rfl)).weaken fun result w'' hresolved => ?_
    intro conv hconv
    exact ⟨_, hresolved conv hconv⟩

lemma sendDm_safe (sha256Hex : String → String) (workspaceId : WorkspaceId) (a b : AgentId)
    (w : World lang Store) : shared.Safe (machine D) Admitted.permits i (fun _ _ => True)
      (direct (Dm.sendDm sha256Hex workspaceId a b)) w := by
  unfold Dm.sendDm direct
  rw [Prog.embed_bind]
  refine (resolveConversation_safe sha256Hex workspaceId a b w).then fun result w' hresolved => ?_
  cases result with
  | error e => trivial
  | ok conv =>
    obtain ⟨id, hconv, rfl, hreserved⟩ := hresolved conv rfl
    refine Shared.Safe.ask fun w₀ _ hk₀ hI₀ hpermits ans => ?_
    have hfinds : Stmt.Finds w₀.store (.direct (.insertMessage ⟨conv.channelId, a, b⟩)) := by
      obtain ⟨r, hr, hrid, -, hb⟩ := hreserved.keep hk₀
      exact ⟨conv, hk₀.conversations conv hconv, rfl, fun _ => ⟨r, hr, hrid, hb⟩⟩
    refine ⟨shared_after (.direct (.insertMessage ⟨conv.channelId, a, b⟩)) ans hI₀ hfinds hpermits,
      fun inserted _ => ?_⟩
    cases inserted <;> trivial

/-! ### The readers -/

/-- The agent may see the conversation: if it is direct, it is reserved for a pair with the
agent. -/
def MaySee (s : Store) (agentId : AgentId) (conv : Conversation) : Prop :=
  conv ∈ s.conversations ∧ (conv.isDirect = true →
    ∃ r ∈ s.reservations, r.conversationId = conv.id ∧ r.names agentId = true)

lemma MaySee.keep {s s' : Store} {agentId : AgentId} {conv : Conversation}
    (h : MaySee s agentId conv) (hkeeps : s.Keeps s') : MaySee s' agentId conv := by
  refine ⟨hkeeps.conversations conv h.1, fun hdirect => ?_⟩
  obtain ⟨r, hr, hrow⟩ := h.2 hdirect
  exact ⟨r, hkeeps.reservations r hr, hrow⟩

/-- An active participant may see the conversation. -/
lemma maySee_of_active {s : Store} (h : s.Sound) {p : Participant} (hp : p ∈ s.participants)
    (hleft : p.left = false) {conv : Conversation} (hconv : conv ∈ s.conversations)
    (hid : p.conversationId = conv.id) : MaySee s p.agentId conv := by
  refine ⟨hconv, fun hdirect => ?_⟩
  obtain ⟨r, hr, hpair⟩ := h.direct conv hconv hdirect
  exact ⟨r, hr, hpair.id_eq, hpair.active p hp hid hleft⟩

/-- What `getDmMessages` returns is of one conversation that its caller may see. -/
def HasRead (s : Store) (agentId : AgentId) (ms : List Message) : Prop :=
  ∃ conv, MaySee s agentId conv ∧ ∀ m ∈ ms, m.channelId = conv.channelId

lemma getDmMessages_safe (conversationId : ConversationId) (agentId : AgentId)
    (w : World lang Store) : shared.Safe (machine D) Admitted.permits i
      (fun result w => ∀ ms, result = .ok ms → HasRead w.store agentId ms)
      (getDmMessages conversationId agentId) w := by
  have herror : ∀ (e : Thrown) (w : World lang Store),
      ∀ ms, (.error e : Except Thrown (List Message)) = .ok ms → HasRead w.store agentId ms := by
    intro e w ms h
    simp at h
  refine Shared.Safe.ask fun w₀ _ _ hI₀ hpermits ans =>
    ⟨shared_after (.findActive conversationId agentId) ans hI₀ trivial hpermits,
      fun (participant : Option Participant) hparticipant => ?_⟩
  refine Shared.Safe.ite (fun _ => herror _ _) fun hsome => ?_
  -- The caller was an active participant when it was looked up, of a conversation that was there.
  obtain ⟨p, hsome⟩ : ∃ p, participant = some p :=
    Option.ne_none_iff_exists'.mp fun hnone => hsome (by rw [hnone]; rfl)
  have hactive : (w₀.store.participant? conversationId agentId).filter (!·.left) = some p :=
    hparticipant.symm.trans hsome
  obtain ⟨hfound, hleft⟩ := Option.filter_eq_some_iff.mp hactive
  have hp := List.mem_of_find?_eq_some hfound
  obtain ⟨hpid, hpagent⟩ : p.conversationId = conversationId ∧ p.agentId = agentId := by
    simpa using List.find?_some hfound
  obtain ⟨conv₀, hconv₀, hid₀⟩ := Store.hasConversation_iff.mp (hI₀.refers p hp)
  have hsee := maySee_of_active hI₀ hp (by simpa using hleft) hconv₀ hid₀.symm
  rw [hpagent] at hsee
  refine Shared.Safe.ask fun w₁ _ hk₁ hI₁ hpermits ans =>
    ⟨shared_after (.direct (.getConversation conversationId)) ans hI₁ trivial hpermits,
      fun conv hconv => ?_⟩
  cases conv with
  | none => exact herror _ _
  | some conv =>
    have hget : w₁.store.conversations.rows.find? (fun c => c.id == conversationId) = some conv :=
      hconv.symm
    have hsame : conv = conv₀ := by
      refine Table.eq_of_clash (List.mem_of_find?_eq_some hget) (hk₁.conversations conv₀ hconv₀) ?_
      have hconvid : conv.id = conversationId := by simpa using List.find?_some hget
      exact beq_iff_eq.mpr (hconvid.trans (hpid.symm.trans hid₀.symm))
    subst hsame
    refine Shared.Safe.ask fun w₂ _ hk₂ hI₂ hpermits ans =>
      ⟨shared_after (.listMessages conv.channelId) ans hI₂ trivial hpermits, fun ms hms => ?_⟩
    intro ms' hms'
    obtain rfl := Except.ok.inj hms'
    refine ⟨conv, (hsee.keep hk₁).keep hk₂, fun m hm => ?_⟩
    rw [hms] at hm
    have hof := List.mem_filter.mp (List.mem_filter.mp hm).1
    exact eq_of_beq hof.2

lemma listConversations_safe (agentId : AgentId) (w : World lang Store) :
    shared.Safe (machine D) Admitted.permits i
      (fun ls w => ∀ l ∈ ls, MaySee w.store agentId l.conversation)
      (listConversations agentId) w := by
  refine Shared.Safe.ask fun w₀ _ _ hI₀ hpermits ans =>
    ⟨shared_after (.listConversations agentId) ans hI₀ trivial hpermits, fun convs hconvs => ?_⟩
  have hsee : ∀ c ∈ convs, MaySee w₀.store agentId c := by
    intro c hc
    rw [hconvs] at hc
    obtain ⟨hc, hany⟩ := List.mem_filter.mp hc
    obtain ⟨p, hp, hrow⟩ := List.any_eq_true.mp hany
    obtain ⟨⟨hid, hagent⟩, hleft⟩ : (p.conversationId = c.id ∧ p.agentId = agentId) ∧
        p.left = false := by simpa using hrow
    rw [← hagent]
    exact maySee_of_active hI₀ hp hleft hc hid
  refine Shared.Safe.ask fun w₁ _ hk₁ hI₁ hpermits ans =>
    ⟨shared_after (D := D) (i := i) (.listParticipants (convs.map (·.id))) ans hI₁ trivial hpermits,
      fun participants _ => ?_⟩
  refine Shared.Safe.ask fun w₂ _ hk₂ hI₂ hpermits ans =>
    ⟨shared_after (D := D) (i := i) (.listChannels (convs.map (·.channelId))) ans hI₂ trivial hpermits,
      fun channels _ => ?_⟩
  intro l hl
  obtain ⟨c, hc, rfl⟩ := List.mem_map.mp hl
  exact ((hsee c hc).keep hk₁).keep hk₂

/-! ## Every admitted run -/

/-- What a call returns with. -/
def Returned : (c : Call) → Result c → World lang Store → Prop
  | .getDmMessages _ agentId, result, w => ∀ ms, result = .ok ms → HasRead w.store agentId ms
  | .listConversations agentId, ls, w => ∀ l ∈ ls, MaySee w.store agentId l.conversation
  | _, _, _ => True

lemma body_safe (sha256Hex : String → String) (workspaceId : WorkspaceId) (c : Call)
    (w : World lang Store) : shared.Safe (machine D) Admitted.permits i (Returned c)
      (body sha256Hex workspaceId c) w := by
  cases c with
  | sendDm a b => exact sendDm_safe sha256Hex workspaceId a b w
  | createGroupDm creator participants => exact createGroupDm_safe creator participants w
  | addParticipant id agentId name =>
    exact safe_of_needsNothing (addParticipant_issues id agentId name) w
  | removeParticipant id agentId =>
    exact safe_of_needsNothing (removeParticipant_issues id agentId) w
  | release agentId => exact safe_of_needsNothing (Prog.issues_ask rfl) w
  | getDmMessages id agentId => exact getDmMessages_safe id agentId w
  | listConversations agentId => exact listConversations_safe agentId w

/-- Any number of calls in one workspace, from a store in which direct conversations are between
their two agents. -/
def service (D : Driver) (sha256Hex : String → String) (workspaceId : WorkspaceId) :
    System lang Store Call Result where
  toMachine := machine D
  body := body sha256Hex workspaceId
  init := Store.Sound

end Group

open Dm.Group

/-- **Direct conversations are between their two agents in every admitted run.** -/
theorem directPrivacy_of_admitted (D : Driver) (sha256Hex : String → String)
    (workspaceId : WorkspaceId) {g : Config Group.lang Store Group.Result}
    (h : (Group.service D sha256Hex workspaceId).Reachable Group.Admitted g) :
    DirectPrivacy g := by
  obtain ⟨hI, hreturned⟩ := Shared.sound (H := shared) (S := Group.service D sha256Hex workspaceId)
    (G := Admitted) (Q := fun c _ result w => Returned c result w) (fun s hs => hs)
    (fun d => d.elim) (fun d => d.elim)
    (fun c _ i w _ _ => body_safe sha256Hex workspaceId c w) h
  have hsee : ∀ {agentId : AgentId} {conv c : Conversation} {r : Reservation},
      MaySee g.world.store agentId conv → c ∈ g.world.store.conversations → c.isDirect = true →
        c.channelId = conv.channelId → r ∈ g.world.store.reservations →
          r.conversationId = c.id → r.names agentId = true := by
    intro agentId conv c r hmay hc hdirect hchannel hr hid
    obtain rfl := hI.legacy.own c hc conv hmay.1 hchannel
    obtain ⟨r', hr', hid', hnames⟩ := hmay.2 hdirect
    rwa [Store.reservation_eq hr hr' (hid.trans hid'.symm)]
  have hpair : ∀ c ∈ g.world.store.conversations, c.isDirect = true →
      ∀ r ∈ g.world.store.reservations, r.conversationId = c.id →
        g.world.store.PairOnly c r := by
    intro c hc hdirect r hr hid
    obtain ⟨r', hr', hpair⟩ := hI.direct c hc hdirect
    rwa [Store.reservation_eq hr hr' (hid.trans hpair.id_eq.symm)]
  refine ⟨fun c hc hdirect => ?_, fun c hc hdirect r hr hid => (hpair c hc hdirect r hr hid).active,
    fun c hc hdirect r hr hid => ⟨(hpair c hc hdirect r hr hid).addressed, ?_⟩, ?_, ?_⟩
  · obtain ⟨r, hr, hrow⟩ := hI.direct c hc hdirect
    exact ⟨r, hr, hrow.id_eq⟩
  · intro agentId hagent
    unfold Store.recipients at hagent
    split at hagent
    · exact absurd hagent List.not_mem_nil
    · next c' hc' =>
      obtain ⟨p, hp, rfl⟩ := List.mem_map.mp hagent
      obtain ⟨hp, hrow⟩ := List.mem_filter.mp hp
      obtain ⟨hpid, hleft⟩ : p.conversationId = c'.id ∧ p.left = false := by simpa using hrow
      have hchannel : c'.channelId = c.channelId := by simpa using List.find?_some hc'
      have hsame := hI.legacy.own c' (List.mem_of_find?_eq_some hc') c hc hchannel
      subst hsame
      exact (hpair c' hc hdirect r hr hid).active p hp hpid hleft
  · intro i conversationId agentId ms hi m hm c hc hdirect hchannel r hr hid
    obtain ⟨w₀, -, hk, hread⟩ := hreturned i _ _ hi
    obtain ⟨conv, hmay, hof⟩ := hread ms rfl
    exact hsee (hmay.keep hk) hc hdirect (hchannel.trans (hof m hm)) hr hid
  · intro i agentId ls hi l hl c hc hdirect hchannel r hr hid
    obtain ⟨w₀, -, hk, hlisted⟩ := hreturned i _ _ hi
    exact hsee ((hlisted l hl).keep hk) hc hdirect hchannel hr hid

/-! ### A third agent -/

namespace Group

/-- No table has a row. -/
def noRows : Store where
  reservations := Table.empty
  channels := Table.empty
  conversations := Table.empty
  participants := Table.empty
  messages := []

lemma sound_noRows : noRows.Sound where
  legacy := ⟨fun c hc => absurd hc (Table.not_mem_empty c),
    fun c hc => absurd hc (Table.not_mem_empty c), fun c hc => absurd hc (Table.not_mem_empty c)⟩
  refers p hp := absurd hp (Table.not_mem_empty p)
  filed _ hm := absurd hm List.not_mem_nil
  direct c hc := absurd hc (Table.not_mem_empty c)

/-- Agents go by their ids, and a page has every message. -/
def plainly : (q : Stmt) → q.Answer
  | .generateId => 1
  | .findAgent name => some name
  | .release _ => true
  | .listMessages _ => fun _ => true
  | .listChannels _ => List.getLast?
  | .direct _ | .insertGroup .. | .findActive .. | .findParticipant .. | .rejoin ..
  | .insertParticipant .. | .leave .. | .listConversations _ | .listParticipants _ => ()

/-- The service of the examples. -/
abbrev constantService := service .betterSqlite3 constantDigest "w"

/-- The conversation of the pair whose digest is constant. -/
abbrev onlyPair : ConversationId := conversationIdOf (constantDigest "")

/-- A message to bob, and then a call, each carried out as a whole. -/
def messageThen (c : Call) (statements : ℕ) : List constantService.Move :=
  .start (.sendDm "alice" "bob") :: List.replicate 7 (.exec 0 plainly) ++
    .start c :: List.replicate statements (.exec 1 plainly)

/-- Bob leaves his conversation with alice, who brings him back in. -/
def bobReturns : List constantService.Move :=
  messageThen (.removeParticipant onlyPair "bob") 2 ++
    .start (.addParticipant onlyPair "alice" "bob") :: List.replicate 4 (.exec 2 plainly)

/-- Alice brings carol in, who reads. -/
def carolReads : List constantService.Move :=
  messageThen (.addParticipant onlyPair "alice" "carol") 4 ++
    .start (.getDmMessages onlyPair "carol") :: List.replicate 3 (.exec 2 plainly)

/-- What an agent has read. -/
def readBy (g : Config lang Store Result) (agentId : AgentId) : List Message :=
  g.threads.flatMap fun t =>
    match t with
    | ⟨.getDmMessages _ reader, some (.done (.ok ms))⟩ => if reader == agentId then ms else []
    | _ => []

lemma of_mem_readBy {g : Config lang Store Result} {agentId : AgentId} {m : Message}
    (hm : m ∈ readBy g agentId) : ∃ (i : ℕ) (conversationId : ConversationId) (ms : List Message),
      g.threads[i]? = some ⟨.getDmMessages conversationId agentId, some (.done (.ok ms))⟩ ∧
        m ∈ ms := by
  obtain ⟨t, ht, hof⟩ := List.mem_flatMap.mp hm
  obtain ⟨i, hi⟩ := List.mem_iff_getElem?.mp ht
  split at hof
  · next conversationId reader ms =>
    split_ifs at hof with hreader
    · obtain rfl := eq_of_beq hreader
      exact ⟨i, conversationId, ms, hi, hof⟩
    · exact absurd hof List.not_mem_nil
  · exact absurd hof List.not_mem_nil

end Group

/-- Bringing back one of the pair is admitted. -/
theorem directPrivacy_of_admitted_bobReturns :
    DirectPrivacy (Group.constantService.runFrom Group.noRows Group.bobReturns) := by
  apply directPrivacy_of_admitted
  apply System.runFrom_reachable_of _ _ Group.sound_noRows
  exact Group.constantService.allowsAll_of_passes (fun _ _ _ h => h) (fun _ _ => trivial)
    (by decide +kernel)

/-- **Either of the pair can bring in a third agent, who reads their messages.** -/
theorem not_directPrivacy_carolReads :
    ¬ ∀ g : Config Group.lang Store Group.Result,
      Group.constantService.Reachable (Regime.free Group.lang Store Group.Call) g →
        DirectPrivacy g := by
  intro h
  let g := Group.constantService.runFrom Group.noRows Group.carolReads
  have hprivacy : DirectPrivacy g :=
    h g (Group.constantService.runFrom_reachable Group.sound_noRows Group.carolReads)
  have hread : ∃ m ∈ Group.readBy g "carol", ∃ c ∈ g.world.store.conversations.rows,
      c.isDirect = true ∧ c.channelId = m.channelId ∧
        ∃ r ∈ g.world.store.reservations.rows, r.conversationId = c.id ∧
          r.names "carol" = false := by decide +kernel
  obtain ⟨m, hm, c, hc, hdirect, hchannel, r, hr, hid, hnot⟩ := hread
  obtain ⟨i, conversationId, ms, hi, hm⟩ := Group.of_mem_readBy hm
  have hnames := hprivacy.read i conversationId "carol" ms hi m hm c hc hdirect hchannel r hr hid
  rw [hnot] at hnames
  exact Bool.noConfusion hnames

end Dm
