import Mathlib.Data.List.Infix
import Mathlib.Data.String.Basic
import Relaycast.Interleaving.Run
import Relaycast.Relational.Table

/-!
# Resolving a 1:1 conversation

A direct message goes to the conversation of its two agents, whose id is derived from a digest of
the pair.  Before anything else is written the id is reserved for the pair; then the channel, the
conversation and the two participants are inserted one after the other, each ignoring what is
already there, and the message is written to the channel of the conversation.

The digest is a parameter, and it may collide.  The tables are those of one workspace, except the
reservations, whose ids are shared by all.
-/

namespace Dm

open Relational Interleaving

abbrev AgentId := String
abbrev WorkspaceId := String
abbrev ConversationId := String
abbrev ChannelId := String

/-! ## Tables -/

/-- A row of `dm_conversation_reservations`, with its check constraint. -/
structure Reservation where
  conversationId : ConversationId
  workspaceId : WorkspaceId
  participantOneId : AgentId
  participantTwoId : AgentId
  sorted : participantOneId ≤ participantTwoId
  deriving DecidableEq

/-- The workspace and the sorted pair of a reservation. -/
def Reservation.tuple (r : Reservation) : WorkspaceId × AgentId × AgentId :=
  (r.workspaceId, r.participantOneId, r.participantTwoId)

instance : Keyed Reservation where
  Key := ConversationId × (WorkspaceId × AgentId × AgentId)
  key r := (r.conversationId, r.tuple)
  clash k k' := k.1 == k'.1 || k.2 == k'.2
  clash_comm k k' := by rw [BEq.comm (a := k.1), BEq.comm (a := k.2)]

/-- A row of `channels`. -/
structure Channel where
  id : ChannelId
  name : String
  channelType : ℕ
  deriving DecidableEq

instance : Keyed Channel where
  Key := ChannelId × String
  key c := (c.id, c.name)
  clash k k' := k.1 == k'.1 || k.2 == k'.2
  clash_comm k k' := by rw [BEq.comm (a := k.1), BEq.comm (a := k.2)]

/-- A row of `dm_conversations`. -/
structure Conversation where
  id : ConversationId
  channelId : ChannelId
  dmType : String
  deriving DecidableEq

instance : Keyed Conversation where
  Key := ConversationId
  key c := c.id
  clash k k' := k == k'
  clash_comm _ _ := BEq.comm

/-- A row of `dm_participants`; `left` says that `left_at` is set. -/
structure Participant where
  conversationId : ConversationId
  agentId : AgentId
  left : Bool
  deriving DecidableEq

instance : Keyed Participant where
  Key := ConversationId × AgentId
  key p := (p.conversationId, p.agentId)
  clash k k' := k == k'
  clash_comm _ _ := BEq.comm

lemma Participant.key_left (left : Bool) (p : Participant) :
    key { p with left := left } = key p := rfl

/-- A direct message with the agent its delivery is for. -/
structure Message where
  channelId : ChannelId
  agentId : AgentId
  toAgentId : AgentId
  deriving DecidableEq

/-- The tables of the area. -/
structure Store where
  reservations : Table Reservation
  channels : Table Channel
  conversations : Table Conversation
  participants : Table Participant
  messages : List Message

/-! ## Errors of the driver -/

/-- An object of a chain of causes. -/
structure ErrorObject where
  code : Option String
  message : String
  deriving DecidableEq

/-- `lowerMessage.includes(text)`. -/
def ErrorObject.mentions (e : ErrorObject) (text : String) : Bool :=
  decide (text.toList <:+: e.message.toLower.toList)

lemma ErrorObject.mentions_eq (e : ErrorObject) (text : String) :
    e.mentions text = decide (text.toList <:+: e.message.toList.map Char.toLower) := by
  have hlower : e.message.toLower = e.message.map Char.toLower := rfl
  rw [mentions, hlower, String.toList_map]

/-- `isPairReservationConflict`, over the objects the walk along `cause` visits. -/
def isPairReservationConflict (chain : List ErrorObject) : Bool :=
  (chain.any fun e => e.code == some "SQLITE_CONSTRAINT_UNIQUE" ||
    e.mentions "unique constraint failed" ||
    (e.code == some "SQLITE_CONSTRAINT" && e.mentions "unique")) &&
  chain.any fun e => e.mentions "dm_conversation_reservations"

/-- The drivers the engine runs on. -/
inductive Driver
  | betterSqlite3
  | d1
  deriving DecidableEq

/-- What a violation of the index over the pair is thrown as. -/
def Driver.pairViolation : Driver → List ErrorObject
  | betterSqlite3 =>
    [⟨some "SQLITE_CONSTRAINT_UNIQUE",
      "UNIQUE constraint failed: dm_conversation_reservations.workspace_id"⟩]
  | d1 =>
    [⟨none, "Failed query: insert into dm_conversation_reservations"⟩,
      ⟨none, "D1_ERROR: UNIQUE constraint failed: dm_conversation_reservations.workspace_id"⟩]

/-- What a reference to a missing row is thrown as. -/
def Driver.foreignKeyViolation : Driver → List ErrorObject
  | betterSqlite3 => [⟨some "SQLITE_CONSTRAINT_FOREIGNKEY", "FOREIGN KEY constraint failed"⟩]
  | d1 => [⟨none, "D1_ERROR: FOREIGN KEY constraint failed"⟩]

/-- **The conflict over a pair is recognized on every driver**, and a missing reference is not
taken for one. -/
theorem isPairReservationConflict_driver (D : Driver) :
    isPairReservationConflict D.pairViolation = true ∧
      isPairReservationConflict D.foreignKeyViolation = false := by
  simp only [isPairReservationConflict, ErrorObject.mentions_eq]
  cases D <;> exact ⟨by decide +kernel, by decide +kernel⟩

/-! ## Derived names -/

/-- `[agentA, agentB].sort()`. -/
def sortedPair (a b : AgentId) : AgentId × AgentId := (min a b, max a b)

lemma sortedPair_comm (a b : AgentId) : sortedPair a b = sortedPair b a := by
  rw [sortedPair, min_comm, max_comm, sortedPair]

lemma sortedPair_le (a b : AgentId) : (sortedPair a b).1 ≤ (sortedPair a b).2 := min_le_max

/-- `deriveDmPairKey`, over the digest `sha256Hex`. -/
def deriveDmPairKey (sha256Hex : String → String) (workspaceId : WorkspaceId) (a b : AgentId) :
    String :=
  ((sha256Hex (workspaceId ++ ":" ++ (sortedPair a b).1 ++ ":" ++ (sortedPair a b).2)).take
    24).toString

/-- `dm_${pairKey}`. -/
def conversationIdOf (pairKey : String) : ConversationId := "dm_" ++ pairKey

/-- `dmch_${pairKey}`. -/
def channelIdOf (pairKey : String) : ChannelId := "dmch_" ++ pairKey

/-- `dm-${pairKey}`. -/
def channelNameOf (pairKey : String) : String := "dm-" ++ pairKey

/-! ## Statements -/

/-- The statements; those after the reservation insert, or read, what is derived from a key. -/
inductive Stmt
  | reserve (conversationId : ConversationId) (workspaceId : WorkspaceId) (a b : AgentId)
  | insertChannel (pairKey : String)
  | insertConversation (pairKey : String)
  | join (conversationId : ConversationId) (agentId : AgentId)
  | getConversation (conversationId : ConversationId)
  | insertMessage (message : Message)

/-- What each statement replies; a statement that inserts can throw. -/
def Stmt.Reply : Stmt → Type
  | .reserve .. => Except (List ErrorObject) (Option ConversationId)
  | .insertChannel _ => Unit
  | .insertConversation _ | .join .. | .insertMessage _ => Except (List ErrorObject) Unit
  | .getConversation _ => Option Conversation

/-- The language of the resolution. -/
abbrev lang : Language where
  Stmt := Stmt
  Answer := fun _ => Unit
  Reply := Stmt.Reply

/-- Issue one statement and return its reply. -/
abbrev await (q : Stmt) : Prog lang q.Reply := Prog.ask (L := lang) q

namespace Store

variable (s : Store)

/-- The reservation of a pair as it is inserted. -/
def reservationOf (conversationId : ConversationId) (workspaceId : WorkspaceId) (a b : AgentId) :
    Reservation where
  conversationId := conversationId
  workspaceId := workspaceId
  participantOneId := (sortedPair a b).1
  participantTwoId := (sortedPair a b).2
  sorted := sortedPair_le a b

/-- The upsert of a reservation.  The conflict target is tried first: a conflict there updates the
row if it is of the same tuple and returns nothing if it is not; a conflict over the pair alone is
thrown. -/
def reserve (D : Driver) (r : Reservation) :
    Except (List ErrorObject) (Option ConversationId) × Store :=
  match s.reservations.rows.find? fun r' => r'.conversationId == r.conversationId with
  | some r' => (.ok (if r'.tuple = r.tuple then some r'.conversationId else none), s)
  | none =>
    if s.reservations.conflicts r then (.error D.pairViolation, s)
    else
      (.ok (some r.conversationId), { s with reservations := s.reservations.insertOrIgnore r })

/-- The channel of a key, unless its id or its name is taken. -/
def insertChannel (pairKey : String) : Store :=
  { s with
    channels := s.channels.insertOrIgnore ⟨channelIdOf pairKey, channelNameOf pairKey, 1⟩ }

/-- Is there a channel with that id? -/
def hasChannel (id : ChannelId) : Bool := s.channels.rows.any fun c => c.id == id

/-- Is there a conversation with that id? -/
def hasConversation (id : ConversationId) : Bool := s.conversations.rows.any fun c => c.id == id

/-- The conversation of a key, unless its id is taken; it refers to the channel of the key. -/
def insertConversation (D : Driver) (pairKey : String) : Except (List ErrorObject) Unit × Store :=
  if s.hasConversation (conversationIdOf pairKey) then (.ok (), s)
  else if !s.hasChannel (channelIdOf pairKey) then (.error D.foreignKeyViolation, s)
  else
    (.ok (), { s with
      conversations := s.conversations.insertOrIgnore
        ⟨conversationIdOf pairKey, channelIdOf pairKey, "1:1"⟩ })

/-- The upsert of a participant: one that has left is back. -/
def join (D : Driver) (conversationId : ConversationId) (agentId : AgentId) :
    Except (List ErrorObject) Unit × Store :=
  if !s.hasConversation conversationId then (.error D.foreignKeyViolation, s)
  else
    (.ok (), { s with
      participants :=
        (s.participants.update
          (fun p => p.conversationId == conversationId && p.agentId == agentId)
          (fun p => { p with left := false }) (Participant.key_left false)).insertOrIgnore
            ⟨conversationId, agentId, false⟩ })

/-- A message of a channel. -/
def insertMessage (D : Driver) (m : Message) : Except (List ErrorObject) Unit × Store :=
  if !s.hasChannel m.channelId then (.error D.foreignKeyViolation, s)
  else (.ok (), { s with messages := s.messages ++ [m] })

end Store

/-- Execute one statement. -/
def run (D : Driver) : (q : Stmt) → Unit → Store → q.Reply × Store
  | .reserve conversationId workspaceId a b, _, s =>
    s.reserve D (Store.reservationOf conversationId workspaceId a b)
  | .insertChannel pairKey, _, s => ((), s.insertChannel pairKey)
  | .insertConversation pairKey, _, s => s.insertConversation D pairKey
  | .join conversationId agentId, _, s => s.join D conversationId agentId
  | .getConversation conversationId, _, s =>
    (s.conversations.rows.find? fun c => c.id == conversationId, s)
  | .insertMessage m, _, s => s.insertMessage D m

/-- The machine of the resolution; nothing else writes these tables. -/
def machine (D : Driver) : Machine lang Store where
  run := run D
  Drift := Empty
  drift d := d.elim

/-! ## Functions -/

/-- What the functions throw: a coded error or the error of the driver. -/
inductive Thrown
  | coded (message code : String) (status : ℕ)
  | driver (chain : List ErrorObject)
  deriving DecidableEq

/-- `dm_conversation_id_collision`, for a pair that is reserved under another id. -/
def pairTaken : Thrown :=
  .coded "DM participant pair is already reserved under a different conversation identifier"
    "dm_conversation_id_collision" 409

/-- `dm_conversation_id_collision`, for an id that is reserved for another pair. -/
def idTaken : Thrown :=
  .coded "DM conversation identifier is already reserved for a different participant pair"
    "dm_conversation_id_collision" 409

/-- Is it the documented refusal of a collision? -/
def Thrown.isCollision : Thrown → Bool
  | .coded _ code _ => code == "dm_conversation_id_collision"
  | .driver _ => false

/-- `resolveOrReserveConversation`. -/
def resolveOrReserveConversation (conversationId : ConversationId) (workspaceId : WorkspaceId)
    (a b : AgentId) : Prog lang (Except Thrown Unit) := do
  let reservation : Except (List ErrorObject) (Option ConversationId) ←
    await (.reserve conversationId workspaceId a b)
  match reservation with
  | .error chain =>
    pure (.error (if isPairReservationConflict chain then pairTaken else .driver chain))
  | .ok none => pure (.error idTaken)
  | .ok (some _) => pure (.ok ())

/-- What follows the reservation: the inserts of `resolveConversation`. -/
def insertDmRows (pairKey : String) (fromAgentId toAgentId : AgentId) :
    Prog lang (Except Thrown Conversation) := do
  let _ : Unit ← await (.insertChannel pairKey)
  let inserted : Except (List ErrorObject) Unit ← await (.insertConversation pairKey)
  match inserted with
  | .error chain => pure (.error (.driver chain))
  | .ok () =>
    let joined : Except (List ErrorObject) Unit ← await (.join (conversationIdOf pairKey) fromAgentId)
    match joined with
    | .error chain => pure (.error (.driver chain))
    | .ok () =>
      let joined : Except (List ErrorObject) Unit ←
        await (.join (conversationIdOf pairKey) toAgentId)
      match joined with
      | .error chain => pure (.error (.driver chain))
      | .ok () =>
        let conv : Option Conversation ← await (.getConversation (conversationIdOf pairKey))
        match conv with
        | none => pure (.error (.coded "Conversation not found" "not_found" 404))
        | some conv => pure (.ok conv)

/-- `resolveConversation`. -/
def resolveConversation (sha256Hex : String → String) (workspaceId : WorkspaceId)
    (fromAgentId toAgentId : AgentId) : Prog lang (Except Thrown Conversation) := do
  let pairKey := deriveDmPairKey sha256Hex workspaceId fromAgentId toAgentId
  match ← resolveOrReserveConversation (conversationIdOf pairKey) workspaceId fromAgentId toAgentId
    with
  | .error e => pure (.error e)
  | .ok () => insertDmRows pairKey fromAgentId toAgentId

/-- What `sendDm` does with the conversation: its message goes to the channel. -/
def sendDm (sha256Hex : String → String) (workspaceId : WorkspaceId)
    (fromAgentId toAgentId : AgentId) : Prog lang (Except Thrown Conversation) := do
  match ← resolveConversation sha256Hex workspaceId fromAgentId toAgentId with
  | .error e => pure (.error e)
  | .ok conv =>
    let inserted : Except (List ErrorObject) Unit ←
      await (.insertMessage ⟨conv.channelId, fromAgentId, toAgentId⟩)
    match inserted with
    | .error chain => pure (.error (.driver chain))
    | .ok () => pure (.ok conv)

/-! ## The service -/

/-- A direct message. -/
structure Call where
  fromAgentId : AgentId
  toAgentId : AgentId

/-- What is stored before: conversations have channels of their own, and the channel derived from a
key belongs to no conversation but the one derived from it.  Reservations, participants, messages
and other channels are arbitrary. -/
structure Store.Legacy (s : Store) : Prop where
  channel : ∀ c ∈ s.conversations, s.hasChannel c.channelId = true
  own : ∀ c ∈ s.conversations, ∀ c' ∈ s.conversations, c.channelId = c'.channelId → c = c'
  derived : ∀ c ∈ s.conversations, ∀ pairKey, c.channelId = channelIdOf pairKey →
    c.id = conversationIdOf pairKey

/-- Any number of direct messages in one workspace. -/
def service (D : Driver) (sha256Hex : String → String) (workspaceId : WorkspaceId) :
    System lang Store Call fun _ => Except Thrown Conversation where
  toMachine := machine D
  body c := sendDm sha256Hex workspaceId c.fromAgentId c.toAgentId
  init := Store.Legacy

end Dm
