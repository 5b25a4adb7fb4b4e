import Relaycast.Dm.Conversation
import Relaycast.Interleaving.History

/-!
# A conversation belongs to one pair

The reservation is the one statement that two resolutions compete for: its two unique indexes give
an id to one pair and a pair one id, and whoever loses is refused before anything else is written.
What the winner then inserts is derived from its own id, so it meets nobody else's rows, with one
exception: the name of the channel is shared with ordinary channels, and the insert that ignores a
taken name leaves the conversation without a channel to refer to.
-/

namespace Dm

open Relational Interleaving

/-! ## What is claimed of the resolutions -/

/-- The message an event has written. -/
def wrote : Event lang Store → Option Message
  | ⟨_, .insertMessage m, _, (reply : Except (List ErrorObject) Unit), _, _⟩ =>
    match reply with
    | .ok () => some m
    | .error _ => none
  | _ => none

/-- The pair a message is between. -/
def Message.pair (m : Message) : AgentId × AgentId := sortedPair m.agentId m.toAgentId

/-- The id is reserved for the pair. -/
def Store.Reserved (s : Store) (conversationId : ConversationId) (workspaceId : WorkspaceId)
    (pair : AgentId × AgentId) : Prop :=
  ∃ r ∈ s.reservations, r.conversationId = conversationId ∧ r.tuple = (workspaceId, pair)

/-- The conversation of a pair is there: reserved, with its row, its channel and both participants
active. -/
structure Store.Resolved (s : Store) (sha256Hex : String → String) (workspaceId : WorkspaceId)
    (a b : AgentId) (conv : Conversation) : Prop where
  id_eq : conv.id = conversationIdOf (deriveDmPairKey sha256Hex workspaceId a b)
  reserved : s.Reserved conv.id workspaceId (sortedPair a b)
  stored : conv ∈ s.conversations
  channel : s.hasChannel conv.channelId = true
  from_active : (⟨conv.id, a, false⟩ : Participant) ∈ s.participants
  to_active : (⟨conv.id, b, false⟩ : Participant) ∈ s.participants

/-- The call has inserted no channel, no conversation and no participant. -/
def InsertedNothing (es : List (Event lang Store)) : Prop :=
  ∀ e ∈ es, e.after.channels = e.before.channels ∧ e.after.conversations = e.before.conversations ∧
    e.after.participants = e.before.participants

/-- How a call has to end. -/
def Outcome (sha256Hex : String → String) (workspaceId : WorkspaceId) (c : Call) (s : Store)
    (es : List (Event lang Store)) : Except Thrown Conversation → Prop
  | .ok conv => s.Resolved sha256Hex workspaceId c.fromAgentId c.toAgentId conv
  | .error e => e.isCollision = true ∧ InsertedNothing es

/-- The identity of conversations. -/
structure ConversationIdentity (sha256Hex : String → String) (workspaceId : WorkspaceId)
    (g : Config lang Store fun _ : Call => Except Thrown Conversation) : Prop where
  /-- A conversation id is reserved for at most one pair. -/
  one_pair : ∀ r ∈ g.world.store.reservations, ∀ r' ∈ g.world.store.reservations,
    r.conversationId = r'.conversationId → r.tuple = r'.tuple
  /-- A pair holds at most one conversation id. -/
  one_id : ∀ r ∈ g.world.store.reservations, ∀ r' ∈ g.world.store.reservations,
    r.tuple = r'.tuple → r.conversationId = r'.conversationId
  /-- Both directions of a pair use one id. -/
  symmetric : ∀ a b, deriveDmPairKey sha256Hex workspaceId a b =
    deriveDmPairKey sha256Hex workspaceId b a
  /-- A resolution ends with the conversation of its pair, or is refused before it inserts. -/
  outcome : ∀ (i : ℕ) (c : Call) (result : Except Thrown Conversation),
    g.threads[i]? = some ⟨c, some (.done result)⟩ →
      Outcome sha256Hex workspaceId c g.world.store (g.world.eventsOf i) result
  /-- Messages of two pairs are never written to one channel. -/
  separate : ∀ e ∈ g.world.trace, ∀ e' ∈ g.world.trace, ∀ m m', wrote e = some m →
    wrote e' = some m' → m.channelId = m'.channelId → m.pair = m'.pair

/-! ## The condition -/

/-- The name of the key's channel is taken by another channel, and neither the channel nor the
conversation of the key is there. -/
def Store.nameTaken (s : Store) (pairKey : String) : Bool :=
  s.channels.rows.any (fun c => c.name == channelNameOf pairKey) &&
    !s.hasChannel (channelIdOf pairKey) && !s.hasConversation (conversationIdOf pairKey)

/-- **The condition.**  No channel is inserted whose name an ordinary channel has. -/
def namesFree : Regime lang Store Call where
  calls := fun _ => True
  permits := fun w _ q => ∀ pairKey, q = .insertChannel pairKey → w.store.nameTaken pairKey = false
  crashes := True

/-! ## What only grows -/

/-- Nothing that a resolution has established is taken back. -/
structure Store.Grows (s s' : Store) : Prop where
  reservations : ∀ r ∈ s.reservations, r ∈ s'.reservations
  channels : ∀ id, s.hasChannel id = true → s'.hasChannel id = true
  conversations : ∀ c ∈ s.conversations, c ∈ s'.conversations
  active : ∀ p ∈ s.participants, p.left = false → p ∈ s'.participants

namespace Store

variable {s s' : Store}

lemma Grows.refl (s : Store) : s.Grows s := ⟨fun _ h => h, fun _ h => h, fun _ h => h, fun _ h _ => h⟩

lemma Grows.trans {s₁ s₂ s₃ : Store} (h : s₁.Grows s₂) (h' : s₂.Grows s₃) : s₁.Grows s₃ :=
  ⟨fun r hr => h'.reservations r (h.reservations r hr), fun id hid => h'.channels id (h.channels id hid),
    fun c hc => h'.conversations c (h.conversations c hc),
    fun p hp hleft => h'.active p (h.active p hp hleft) hleft⟩

lemma Reserved.grow {id : ConversationId} {workspaceId : WorkspaceId} {pair : AgentId × AgentId}
    (h : s.Reserved id workspaceId pair) (hs : s.Grows s') : s'.Reserved id workspaceId pair := by
  obtain ⟨r, hr, hrow⟩ := h
  exact ⟨r, hs.reservations r hr, hrow⟩

lemma Resolved.grow {sha256Hex : String → String} {workspaceId : WorkspaceId} {a b : AgentId}
    {conv : Conversation} (h : s.Resolved sha256Hex workspaceId a b conv) (hs : s.Grows s') :
    s'.Resolved sha256Hex workspaceId a b conv where
  id_eq := h.id_eq
  reserved := h.reserved.grow hs
  stored := hs.conversations conv h.stored
  channel := hs.channels _ h.channel
  from_active := hs.active _ h.from_active rfl
  to_active := hs.active _ h.to_active rfl

/-! ## Single statements -/

/-- What the reservation says: an id that is returned is reserved for the tuple, and what is thrown
is the conflict over the pair. -/
lemma reserve_spec (D : Driver) (r : Reservation) :
    (∀ id, (s.reserve D r).1 = .ok (some id) →
      ∃ r' ∈ (s.reserve D r).2.reservations, r'.conversationId = r.conversationId ∧
        r'.tuple = r.tuple) ∧
    (∀ chain, (s.reserve D r).1 = .error chain → chain = D.pairViolation) ∧
    (∀ r' ∈ s.reservations, r' ∈ (s.reserve D r).2.reservations) ∧
    (s.reserve D r).2 = { s with reservations := (s.reserve D r).2.reservations } := by
  unfold reserve
  cases hfind : s.reservations.rows.find? (fun r' => r'.conversationId == r.conversationId) with
  | some r' =>
    dsimp only
    refine ⟨fun id hid => ?_, fun chain hchain => by simp at hchain, fun _ h => h, rfl⟩
    by_cases htuple : r'.tuple = r.tuple
    · exact ⟨r', List.mem_of_find?_eq_some hfind, by simpa using List.find?_some hfind, htuple⟩
    · rw [if_neg htuple] at hid
      simp at hid
  | none =>
    dsimp only
    split
    · refine ⟨fun id hid => by simp at hid, fun chain hchain => ?_, fun _ h => h, rfl⟩
      exact (Except.error.inj hchain).symm
    · next hfree =>
      refine ⟨fun id _ => ⟨r, ?_, rfl, rfl⟩, fun chain hchain => by simp at hchain,
        fun r' hr' => Table.mem_insertOrIgnore_of_mem hr', rfl⟩
      exact Table.mem_insertOrIgnore_self (by simpa using hfree)

/-- A channel that is there stays. -/
lemma hasChannel_insertChannel {pairKey : String} {id : ChannelId} (h : s.hasChannel id = true) :
    (s.insertChannel pairKey).hasChannel id = true := by
  obtain ⟨c, hc, hid⟩ := List.any_eq_true.mp h
  exact List.any_eq_true.mpr ⟨c, Table.mem_insertOrIgnore_of_mem hc, hid⟩

/-- **Unless its name is taken, the channel of a key is there after its insert**, or the
conversation is already. -/
lemma hasChannel_of_insertChannel {pairKey : String} (h : s.nameTaken pairKey = false) :
    (s.insertChannel pairKey).hasChannel (channelIdOf pairKey) = true ∨
      s.hasConversation (conversationIdOf pairKey) = true := by
  by_cases hchannel : s.hasChannel (channelIdOf pairKey) = true
  · exact .inl (hasChannel_insertChannel hchannel)
  by_cases hconv : s.hasConversation (conversationIdOf pairKey) = true
  · exact .inr hconv
  left
  have hname : s.channels.rows.any (fun c => c.name == channelNameOf pairKey) = false := by
    simpa [nameTaken, hchannel, hconv] using h
  have hfree : s.channels.conflicts ⟨channelIdOf pairKey, channelNameOf pairKey, 1⟩ = false := by
    refine List.any_eq_false.mpr fun c hc hclash => ?_
    rcases Bool.or_eq_true_iff.mp hclash with hid | hnamed
    · exact hchannel (List.any_eq_true.mpr ⟨c, hc, hid⟩)
    · exact List.any_eq_false.mp hname c hc hnamed
  exact List.any_eq_true.mpr ⟨_, Table.mem_insertOrIgnore_self hfree, by simp⟩

/-- A conversation that is there stays. -/
lemma Grows.hasConversation (h : s.Grows s') {id : ConversationId}
    (hid : s.hasConversation id = true) : s'.hasConversation id = true := by
  obtain ⟨c, hc, hrow⟩ := List.any_eq_true.mp hid
  exact List.any_eq_true.mpr ⟨c, h.conversations c hc, hrow⟩

/-- The conversation of a key is there after its insert, if it has something to refer to. -/
lemma insertConversation_spec (D : Driver) {pairKey : String}
    (h : s.hasChannel (channelIdOf pairKey) = true ∨
      s.hasConversation (conversationIdOf pairKey) = true) :
    (s.insertConversation D pairKey).1 = .ok () ∧
      (s.insertConversation D pairKey).2.hasConversation (conversationIdOf pairKey) = true := by
  unfold insertConversation
  by_cases hconv : s.hasConversation (conversationIdOf pairKey) = true
  · rw [if_pos hconv]
    exact ⟨rfl, hconv⟩
  · have hchannel : s.hasChannel (channelIdOf pairKey) = true := h.resolve_right hconv
    rw [if_neg hconv, if_neg (by simp [hchannel])]
    refine ⟨rfl, List.any_eq_true.mpr ⟨_, Table.mem_insertOrIgnore_self ?_, beq_self_eq_true _⟩⟩
    refine List.any_eq_false.mpr fun c hc hclash => hconv ?_
    exact List.any_eq_true.mpr ⟨c, hc, hclash⟩

/-- A participant of a conversation that is there is active after joining. -/
lemma join_spec (D : Driver) {id : ConversationId} (h : s.hasConversation id = true)
    (agentId : AgentId) :
    (s.join D id agentId).1 = .ok () ∧
      (⟨id, agentId, false⟩ : Participant) ∈ (s.join D id agentId).2.participants := by
  unfold join
  rw [if_neg (by simp [h])]
  refine ⟨rfl, ?_⟩
  set T := s.participants.update (fun p => p.conversationId == id && p.agentId == agentId)
    (fun p => { p with left := false }) (Participant.key_left false) with hT
  by_cases hconflict : T.conflicts ⟨id, agentId, false⟩ = true
  · obtain ⟨p, hp, hclash⟩ := List.any_eq_true.mp hconflict
    have hkey : p.conversationId = id ∧ p.agentId = agentId := by
      have hpair : (p.conversationId, p.agentId) = (id, agentId) := beq_iff_eq.mp hclash
      exact Prod.mk.inj hpair
    have hactive : p.left = false := by
      rcases Table.mem_update_cases (hT ▸ hp) with ⟨-, hmiss⟩ | ⟨p₀, -, -, rfl⟩
      · simp [hkey.1, hkey.2] at hmiss
      · rfl
    have hsame : p = ⟨id, agentId, false⟩ := by
      cases p
      simp only [Participant.mk.injEq]
      exact ⟨hkey.1, hkey.2, hactive⟩
    exact Table.mem_insertOrIgnore_of_mem (hsame ▸ hp)
  · exact Table.mem_insertOrIgnore_self (by simpa using hconflict)

/-- **Nothing is taken back** by any statement. -/
lemma grows_run (D : Driver) (q : Stmt) (s : Store) : s.Grows (run D q () s).2 := by
  cases q with
  | reserve id workspaceId a b =>
    obtain ⟨-, -, hkept, hrest⟩ := s.reserve_spec D (reservationOf id workspaceId a b)
    have hs : (run D (.reserve id workspaceId a b) () s).2 = _ := hrest
    rw [hs]
    exact ⟨hkept, fun _ h => h, fun _ h => h, fun _ h _ => h⟩
  | insertChannel pairKey =>
    exact ⟨fun _ h => h, fun _ h => hasChannel_insertChannel h, fun _ h => h, fun _ h _ => h⟩
  | insertConversation pairKey =>
    show s.Grows (s.insertConversation D pairKey).2
    unfold insertConversation
    split_ifs
    · exact Grows.refl s
    · exact Grows.refl s
    · exact ⟨fun _ h => h, fun _ h => h, fun _ h => Table.mem_insertOrIgnore_of_mem h, fun _ h _ => h⟩
  | join id agentId =>
    show s.Grows (s.join D id agentId).2
    unfold join
    split_ifs
    · exact Grows.refl s
    · refine ⟨fun _ h => h, fun _ h => h, fun _ h => h, fun p hp hleft => ?_⟩
      refine Table.mem_insertOrIgnore_of_mem (Table.mem_update.mpr ⟨p, hp, ?_⟩)
      split_ifs
      · cases p
        simp_all
      · rfl
  | getConversation => exact Grows.refl s
  | insertMessage m =>
    show s.Grows (s.insertMessage D m).2
    unfold insertMessage
    split_ifs
    · exact Grows.refl s
    · exact ⟨fun _ h => h, fun _ h => h, fun _ h => h, fun _ h _ => h⟩

/-- **Every statement keeps channels to their own conversations.** -/
lemma Legacy.run {s : Store} (h : s.Legacy) (D : Driver) (q : Stmt) : (run D q () s).2.Legacy := by
  cases q with
  | reserve id workspaceId a b =>
    have hs : (Dm.run D (.reserve id workspaceId a b) () s).2 = _ :=
      (s.reserve_spec D (reservationOf id workspaceId a b)).2.2.2
    rw [hs]
    exact ⟨h.channel, h.own, h.derived⟩
  | insertChannel pairKey =>
    exact ⟨fun c hc => hasChannel_insertChannel (h.channel c hc), h.own, h.derived⟩
  | insertConversation pairKey =>
    show (s.insertConversation D pairKey).2.Legacy
    unfold insertConversation
    split_ifs with hconv hchannel
    · exact h
    · exact h
    · have hthere : s.hasChannel (channelIdOf pairKey) = true := by simpa using hchannel
      have hnew : ∀ c ∈ s.conversations, c.channelId ≠ channelIdOf pairKey := by
        intro c hc hchannelId
        exact hconv (List.any_eq_true.mpr ⟨c, hc, beq_iff_eq.mpr (h.derived c hc pairKey hchannelId)⟩)
      refine ⟨fun c hc => ?_, fun c hc c' hc' hsame => ?_, fun c hc key hkey => ?_⟩
      · rcases Table.mem_insertOrIgnore hc with hc | ⟨rfl, -⟩
        · exact h.channel c hc
        · exact hthere
      · rcases Table.mem_insertOrIgnore hc with hc | ⟨rfl, -⟩ <;>
          rcases Table.mem_insertOrIgnore hc' with hc' | ⟨rfl, -⟩
        · exact h.own c hc c' hc' hsame
        · exact absurd hsame (hnew c hc)
        · exact absurd hsame.symm (hnew c' hc')
        · rfl
      · rcases Table.mem_insertOrIgnore hc with hc | ⟨rfl, -⟩
        · exact h.derived c hc key hkey
        · have hkeys : pairKey = key := (String.append_right_inj "dmch_").mp hkey
          rw [hkeys]
  | join id agentId =>
    show (s.join D id agentId).2.Legacy
    unfold join
    split_ifs
    · exact h
    · exact ⟨h.channel, h.own, h.derived⟩
  | getConversation => exact h
  | insertMessage m =>
    show (s.insertMessage D m).2.Legacy
    unfold insertMessage
    split_ifs
    · exact h
    · exact ⟨h.channel, h.own, h.derived⟩

end Store

/-! ## What all calls keep -/

/-- Channels belong to their conversations, and a message of the run is in the channel of the
conversation that is reserved for its pair. -/
structure IdentityInv (workspaceId : WorkspaceId) (w : World lang Store) : Prop where
  legacy : w.store.Legacy
  written : ∀ e ∈ w.trace, ∀ m, wrote e = some m → ∃ conv ∈ w.store.conversations,
    conv.channelId = m.channelId ∧ w.store.Reserved conv.id workspaceId m.pair

/-- What resolutions share. -/
def identity (workspaceId : WorkspaceId) : Shared lang Store where
  inv := IdentityInv workspaceId
  grows w w' := w.store.Grows w'.store
  refl w := Store.Grows.refl w.store
  trans _ _ _ h h' := h.trans h'

section Calls

variable {D : Driver} {sha256Hex : String → String} {workspaceId : WorkspaceId} {i : ℕ}

/-- A program that keeps the identity of conversations as call `i`, and ends with `Q`. -/
abbrev Identifies (D : Driver) (workspaceId : WorkspaceId) (i : ℕ) {α : Type}
    (Q : α → World lang Store → Prop) (p : Prog lang α) (w : World lang Store) : Prop :=
  (identity workspaceId).Safe (machine D) namesFree.permits i Q p w

/-- A statement keeps what is shared, a message provided that it goes where it belongs. -/
lemma IdentityInv.step {w : World lang Store} (h : IdentityInv workspaceId w) (q : Stmt) (a : Unit)
    (hwrote : ∀ m, wrote (w.event (machine D) i q a) = some m →
      ∃ conv ∈ w.store.conversations, conv.channelId = m.channelId ∧
        w.store.Reserved conv.id workspaceId m.pair) :
    IdentityInv workspaceId (w.after (machine D) i q a) ∧
      w.store.Grows (w.after (machine D) i q a).store := by
  have hgrows : w.store.Grows (w.after (machine D) i q a).store := Store.grows_run D q w.store
  refine ⟨⟨h.legacy.run D q, fun e he m hm => ?_⟩, hgrows⟩
  have hold : ∃ conv ∈ w.store.conversations, conv.channelId = m.channelId ∧
      w.store.Reserved conv.id workspaceId m.pair := by
    rcases List.mem_cons.mp he with rfl | he
    · exact hwrote m hm
    · exact h.written e he m hm
  obtain ⟨conv, hconv, hchannel, hreserved⟩ := hold
  exact ⟨conv, hgrows.conversations conv hconv, hchannel, hreserved.grow hgrows⟩

/-- The reservation decides: the id is the pair's, or the call is refused. -/
lemma resolveOrReserve_identifies {id : ConversationId} {a b : AgentId} {w : World lang Store}
    (hw : w.eventsOf i = []) :
    Identifies D workspaceId i
      (fun result w => match result with
        | .ok () => w.store.Reserved id workspaceId (sortedPair a b)
        | .error e => e.isCollision = true ∧ InsertedNothing (w.eventsOf i))
      (resolveOrReserveConversation id workspaceId a b) w := by
  refine Shared.Safe.ask fun w' hown _ hI _ u =>
    ⟨IdentityInv.step hI (.reserve id workspaceId a b) u fun m hm => by simp [wrote, World.event] at hm,
      fun reply hreply => ?_⟩
  obtain ⟨hreserved, hthrown, -, hrest⟩ :=
    w'.store.reserve_spec D (Store.reservationOf id workspaceId a b)
  have hnothing : InsertedNothing
      ((w'.after (machine D) i (.reserve id workspaceId a b) u).eventsOf i) := by
    rw [World.eventsOf_after_self, hown, hw]
    intro e he
    obtain rfl := List.mem_singleton.mp he
    show (w'.store.reserve D _).2.channels = _ ∧ (w'.store.reserve D _).2.conversations = _ ∧
      (w'.store.reserve D _).2.participants = _
    rw [hrest]
    exact ⟨rfl, rfl, rfl⟩
  match reply with
  | .error chain =>
    obtain rfl := hthrown chain hreply.symm
    have hconflict := (isPairReservationConflict_driver D).1
    show (if isPairReservationConflict D.pairViolation then pairTaken
      else .driver D.pairViolation).isCollision = true ∧ _
    rw [if_pos hconflict]
    exact ⟨rfl, hnothing⟩
  | .ok none => exact ⟨rfl, hnothing⟩
  | .ok (some id') =>
    obtain ⟨r, hr, hid, htuple⟩ := hreserved id' hreply.symm
    exact ⟨r, hr, hid, htuple⟩

/-- After the reservation every insert finds what it refers to, and the call ends with the
conversation of its pair. -/
lemma insertDmRows_identifies {a b : AgentId} {pairKey : String}
    (hkey : pairKey = deriveDmPairKey sha256Hex workspaceId a b) {w : World lang Store}
    (hw : w.store.Reserved (conversationIdOf pairKey) workspaceId (sortedPair a b)) :
    Identifies D workspaceId i
      (fun result w => ∃ conv, result = .ok conv ∧
        w.store.Resolved sha256Hex workspaceId a b conv)
      (insertDmRows pairKey a b) w := by
  have hplain : ∀ {w : World lang Store} {q : Stmt} (u : Unit), (∀ m, q ≠ .insertMessage m) →
      IdentityInv workspaceId w → IdentityInv workspaceId (w.after (machine D) i q u) ∧
        w.store.Grows (w.after (machine D) i q u).store := by
    intro w q u hq hI
    refine hI.step q u fun m hm => ?_
    cases q with
    | insertMessage m' => exact absurd rfl (hq m')
    | reserve | insertChannel | insertConversation | join | getConversation =>
      simp [wrote, World.event] at hm
  -- the channel, unless the conversation is there already
  refine Shared.Safe.ask fun w₁ _ hg₁ hI₁ hfree u =>
    ⟨hplain u (fun m h => by cases h) hI₁, fun _ _ => ?_⟩
  have hr₁ := hw.grow hg₁
  have hchannel : (w₁.store.insertChannel pairKey).hasChannel (channelIdOf pairKey) = true ∨
      (w₁.store.insertChannel pairKey).hasConversation (conversationIdOf pairKey) = true :=
    Store.hasChannel_of_insertChannel (hfree pairKey rfl)
  have hr₁' := hr₁.grow (Store.grows_run D (.insertChannel pairKey) w₁.store)
  -- the conversation
  refine Shared.Safe.ask fun w₂ _ hg₂ hI₂ _ u =>
    ⟨hplain u (fun m h => by cases h) hI₂, fun reply hreply => ?_⟩
  obtain ⟨hok, hconv⟩ := Store.insertConversation_spec D (s := w₂.store)
    (hchannel.imp (hg₂.channels _) hg₂.hasConversation)
  obtain rfl : reply = .ok () := hreply.trans hok
  have hr₂ := (hr₁'.grow hg₂).grow (Store.grows_run D (.insertConversation pairKey) w₂.store)
  -- the participants
  refine Shared.Safe.ask fun w₃ _ hg₃ hI₃ _ u =>
    ⟨hplain u (fun m h => by cases h) hI₃, fun reply hreply => ?_⟩
  have hconv₃ := hg₃.hasConversation hconv
  obtain ⟨hok₃, hfrom⟩ := Store.join_spec D hconv₃ a
  obtain rfl : reply = .ok () := hreply.trans hok₃
  have hgrow₃ := Store.grows_run D (.join (conversationIdOf pairKey) a) w₃.store
  refine Shared.Safe.ask fun w₄ _ hg₄ hI₄ _ u =>
    ⟨hplain u (fun m h => by cases h) hI₄, fun reply hreply => ?_⟩
  have hconv₄ := hg₄.hasConversation (hgrow₃.hasConversation hconv₃)
  obtain ⟨hok₄, hto⟩ := Store.join_spec D hconv₄ b
  obtain rfl : reply = .ok () := hreply.trans hok₄
  have hgrow₄ := Store.grows_run D (.join (conversationIdOf pairKey) b) w₄.store
  -- the conversation as it is stored
  refine Shared.Safe.ask fun w₅ _ hg₅ hI₅ _ u =>
    ⟨hplain u (fun m h => by cases h) hI₅, fun reply hreply => ?_⟩
  have hconv₅ := hg₅.hasConversation (hgrow₄.hasConversation hconv₄)
  have hreserved := ((((hr₂.grow hg₃).grow hgrow₃).grow hg₄).grow hgrow₄).grow hg₅
  have hfrom₅ := hg₅.active _ (hgrow₄.active _ (hg₄.active _ hfrom rfl) rfl) rfl
  have hto₅ := hg₅.active _ hto rfl
  cases hfind : w₅.store.conversations.rows.find? (fun c => c.id == conversationIdOf pairKey) with
  | none =>
    obtain ⟨c, hc, hid⟩ := List.any_eq_true.mp hconv₅
    exact absurd hid (List.find?_eq_none.mp hfind c hc)
  | some conv =>
    obtain rfl : reply = some conv := hreply.trans hfind
    have hid : conv.id = conversationIdOf pairKey := by simpa using List.find?_some hfind
    have hstored : conv ∈ w₅.store.conversations := List.mem_of_find?_eq_some hfind
    refine ⟨conv, rfl, hkey ▸ hid, hid.symm ▸ hreserved, hstored, hI₅.legacy.channel conv hstored,
      hid.symm ▸ hfrom₅, hid.symm ▸ hto₅⟩

/-- **`sendDm` keeps the identity of conversations**, and ends as it has to. -/
lemma sendDm_identifies {c : Call} {w : World lang Store} (hw : w.eventsOf i = []) :
    Identifies D workspaceId i
      (fun result w => Outcome sha256Hex workspaceId c w.store (w.eventsOf i) result)
      (sendDm sha256Hex workspaceId c.fromAgentId c.toAgentId) w := by
  have hresolve : Identifies D workspaceId i
      (fun result w => Outcome sha256Hex workspaceId c w.store (w.eventsOf i) result)
      (resolveConversation sha256Hex workspaceId c.fromAgentId c.toAgentId) w := by
    refine (resolveOrReserve_identifies (D := D) hw).then fun result w' hresult => ?_
    match result with
    | .error e => exact hresult
    | .ok () =>
      refine (insertDmRows_identifies rfl hresult).weaken fun result w'' hend => ?_
      obtain ⟨conv, rfl, hresolved⟩ := hend
      exact hresolved
  refine hresolve.then fun result w' hresult => ?_
  match result with
  | .error e => exact hresult
  | .ok conv =>
    have hconv : w'.store.Resolved sha256Hex workspaceId c.fromAgentId c.toAgentId conv := hresult
    refine Shared.Safe.ask fun w₁ _ hg hI _ u => ⟨IdentityInv.step hI _ u fun m hm => ?_, ?_⟩
    · have hconv₁ := hconv.grow hg
      have hm' : m = ⟨conv.channelId, c.fromAgentId, c.toAgentId⟩ := by
        have hwrote : (match (w₁.store.insertMessage D
            ⟨conv.channelId, c.fromAgentId, c.toAgentId⟩).1 with
          | .ok () => some (⟨conv.channelId, c.fromAgentId, c.toAgentId⟩ : Message)
          | .error _ => none) = some m := hm
        split at hwrote
        · exact (Option.some.inj hwrote).symm
        · simp at hwrote
      subst hm'
      exact ⟨conv, hconv₁.stored, rfl, hconv₁.reserved⟩
    · intro reply hreply
      have hconv₁ := hconv.grow hg
      have hok : (w₁.store.insertMessage D ⟨conv.channelId, c.fromAgentId, c.toAgentId⟩).1 =
          .ok () := by
        unfold Store.insertMessage
        rw [if_neg (by simp [hconv₁.channel])]
      obtain rfl : reply = .ok () := hreply.trans hok
      exact hconv₁.grow (Store.grows_run D (.insertMessage _) w₁.store)

end Calls

/-! ## Every run -/

/-- **A conversation belongs to one pair** in every run in which no ordinary channel has the name of
a channel that is inserted. -/
theorem conversationIdentity_of_namesFree {D : Driver} {sha256Hex : String → String}
    {workspaceId : WorkspaceId} {g : Config lang Store fun _ : Call => Except Thrown Conversation}
    (h : (service D sha256Hex workspaceId).Reachable namesFree g) :
    ConversationIdentity sha256Hex workspaceId g := by
  obtain ⟨hI, hreturned⟩ := Shared.sound (H := identity workspaceId)
    (S := service D sha256Hex workspaceId)
    (Q := fun c i result w => Outcome sha256Hex workspaceId c w.store (w.eventsOf i) result)
    (fun s hs => ⟨hs, by simp⟩) (fun d => d.elim) (fun d => d.elim)
    (fun c _ i w hw _ => sendDm_identifies hw) h
  have hone : ∀ r ∈ g.world.store.reservations, ∀ r' ∈ g.world.store.reservations,
      r.conversationId = r'.conversationId ∨ r.tuple = r'.tuple → r = r' := by
    intro r hr r' hr' hsame
    refine Table.eq_of_clash hr hr' (Bool.or_eq_true_iff.mpr ?_)
    exact hsame.imp beq_iff_eq.mpr beq_iff_eq.mpr
  refine ⟨fun r hr r' hr' hid => ?_, fun r hr r' hr' htuple => ?_, fun a b => ?_,
    fun i c result hi => ?_, fun e he e' he' m m' hm hm' hchannel => ?_⟩
  · rw [hone r hr r' hr' (.inl hid)]
  · rw [hone r hr r' hr' (.inr htuple)]
  · rw [deriveDmPairKey, deriveDmPairKey, sortedPair_comm]
  · obtain ⟨w₀, hevents, hgrows, hend⟩ := hreturned i c result hi
    match result with
    | .ok conv => exact Store.Resolved.grow hend hgrows
    | .error e => exact ⟨hend.1, hevents ▸ hend.2⟩
  · obtain ⟨conv, hconv, hid, r, hr, hrid, htuple⟩ := hI.written e he m hm
    obtain ⟨conv', hconv', hid', r', hr', hrid', htuple'⟩ := hI.written e' he' m' hm'
    have hsame : conv = conv' :=
      hI.legacy.own conv hconv conv' hconv' (hid.trans (hchannel.trans hid'.symm))
    have hrow : r = r' := hone r hr r' hr' (.inl (by rw [hrid, hrid', hsame]))
    rw [hrow, htuple'] at htuple
    exact (Prod.mk.inj htuple).2.symm

/-! ## An ordinary channel with the name of a DM channel -/

/-- A digest under which all pairs collide. -/
def constantDigest : String → String := fun _ => "k"

/-- A workspace with the channels `cs` and nothing else. -/
def workspaceWith (cs : Table Channel) : Store where
  reservations := Table.empty
  channels := cs
  conversations := Table.empty
  participants := Table.empty
  messages := []

lemma legacy_workspaceWith (cs : Table Channel) : (workspaceWith cs).Legacy :=
  ⟨fun c hc => absurd hc (Table.not_mem_empty c), fun c hc => absurd hc (Table.not_mem_empty c),
    fun c hc => absurd hc (Table.not_mem_empty c)⟩

/-- The system of the example. -/
abbrev collidingService := service .betterSqlite3 constantDigest "w"

/-- Does the regime permit the statement? -/
def permitsName (w : World lang Store) (_ : ℕ) : Stmt → Bool
  | .insertChannel pairKey => !w.store.nameTaken pairKey
  | _ => true

/-- Both directions of a pair, and a pair that collides with it. -/
def threeMessages : List collidingService.Move :=
  .start ⟨"a", "b"⟩ :: .start ⟨"b", "a"⟩ :: .start ⟨"a", "c"⟩ ::
    [0, 1, 2, 0, 1, 1, 0, 0, 1, 1, 0, 0, 1, 1, 0].map fun i => .exec i fun _ => ()

/-- The condition holds, for instance, where there is no channel at all. -/
theorem conversationIdentity_of_namesFree_threeMessages :
    ConversationIdentity constantDigest "w"
      (collidingService.runFrom (workspaceWith Table.empty) threeMessages) := by
  have hok : ∀ w i q, permitsName w i q = true → namesFree.permits w i q := by
    rintro w i q hq pairKey rfl
    simpa [permitsName] using hq
  exact conversationIdentity_of_namesFree (D := .betterSqlite3)
    (collidingService.runFrom_reachable_of _ (legacy_workspaceWith _)
      (collidingService.allowsAll_of_passes hok (fun _ _ => trivial) (by decide +kernel)))

/-- An ordinary channel that has the name of the pair's DM channel. -/
def squattedName : Table Channel := Table.empty.insertOrIgnore ⟨"1", "dm-k", 0⟩

/-- Has a call ended with an error that is no collision? -/
def failedOtherwise (g : Config lang Store fun _ : Call => Except Thrown Conversation) : Bool :=
  g.threads.any fun t =>
    match t.prog with
    | some (.done (.error e)) => !e.isCollision
    | _ => false

/-- **A channel with the name of the DM channel makes the resolution fail with an error of the
driver.** -/
theorem not_conversationIdentity_squattedName :
    ¬ ∀ g : Config lang Store fun _ : Call => Except Thrown Conversation,
      collidingService.Reachable (Regime.free lang Store Call) g →
        ConversationIdentity constantDigest "w" g := by
  intro h
  have hidentity := h _ (collidingService.runFrom_reachable (legacy_workspaceWith squattedName)
    (.start ⟨"a", "b"⟩ :: List.replicate 3 (.exec 0 fun _ => ())))
  have hfailed : failedOtherwise (collidingService.runFrom (workspaceWith squattedName)
      (.start ⟨"a", "b"⟩ :: List.replicate 3 (.exec 0 fun _ => ()))) = true := by decide +kernel
  obtain ⟨t, ht, hend⟩ := List.any_eq_true.mp hfailed
  obtain ⟨i, hi⟩ := List.mem_iff_getElem?.mp ht
  rcases t with ⟨c, prog⟩
  match prog, hi, hend with
  | some (.done (.error e)), hi, hend =>
    have houtcome := hidentity.outcome i c (.error e) hi
    have hother : (!e.isCollision) = true := hend
    rw [houtcome.1] at hother
    simp at hother

end Dm
