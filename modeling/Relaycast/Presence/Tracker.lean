import Mathlib.Data.Int.Notation
import Mathlib.Logic.Relation
import Relaycast.Script.Text

/-!
# The in-process presence tracker

`InProcessPresence` keeps the agents it has seen in one `Map` per workspace and announces their
transitions.  This is code of one process: what a call does up to its next `await` is one step, and
the only `await` is that of a broadcast.  Appends and publishes complete in the order in which they
were started, so the broadcasts form a queue; the call that awaits a broadcast goes on at some time
after it was published.

A `Map` is the list of its entries in insertion order.  The entries of `workspaces` carry the
number of their insertion, since a sweep walks over them while they change: it goes on with the
next entry after the last one it has visited, and that includes entries that were inserted
meanwhile.  The inner maps are objects of their own, numbered in the order of their creation,
because a sweep keeps the one it has swept over its `await`s.

The set of explicit disconnects, which no entry and no event depends on, is left out, and with it
the pass over it at the end of a sweep.  `touched` records which agents ever had an entry.  No
step reads it.
-/

namespace Presence

open Script

abbrev WorkspaceId := String
abbrev AgentId := String

/-- `PresenceEntry`. -/
structure PresenceEntry where
  ts : ℤ
  name : String

/-- What an event says of the agent. -/
inductive AgentStatus
  | active
  | offline
  deriving DecidableEq

/-- The event of `buildEvent`: its type, `subject_agent_id` and the name, with the workspace it is
published to. -/
structure StatusEvent where
  workspaceId : WorkspaceId
  status : AgentStatus
  subjectAgentId : AgentId
  agentName : String
  deriving DecidableEq

/-- An entry of `workspaces`, with the number of its insertion. -/
structure Slot where
  number : ℕ
  workspaceId : WorkspaceId
  map : ℕ

/-- A sweep between two of its steps: its `now`, the number of the next entry it looks at, the
workspace and the map it has swept, and who is still to be announced.  It awaits a broadcast, or
may go on. -/
structure Sweep where
  now : ℤ
  next : ℕ
  workspaceId : WorkspaceId
  map : ℕ
  stale : List (AgentId × String)
  awaiting : Bool

/-- A broadcast under way, and the sweep that awaits it. -/
structure Broadcast where
  event : StatusEvent
  sweep : Option ℕ

/-- The memory of the tracker, and what has been published, latest first. -/
structure Tracker where
  workspaces : List Slot
  inserted : ℕ
  maps : List (List (AgentId × PresenceEntry))
  broadcasts : List Broadcast
  sweeps : List (Option Sweep)
  published : List StatusEvent
  touched : List (WorkspaceId × AgentId)

namespace Tracker

/-- A tracker that has not been called yet. -/
def fresh : Tracker := ⟨[], 0, [], [], [], [], []⟩

variable (s : Tracker)

/-- `this.workspaces.get(workspaceId)`. -/
def slot? (workspaceId : WorkspaceId) : Option Slot :=
  s.workspaces.find? fun slot => slot.workspaceId == workspaceId

/-- The contents of a map. -/
def contents (map : ℕ) : List (AgentId × PresenceEntry) := s.maps[map]?.getD []

/-- The entry the tracker holds for an agent. -/
def entryFor? (workspaceId : WorkspaceId) (agentId : AgentId) : Option PresenceEntry :=
  (s.slot? workspaceId).bind fun slot => (s.contents slot.map).lookup agentId

/-- `ws`: the map of a workspace, created if there is none. -/
def ws (workspaceId : WorkspaceId) : ℕ × Tracker :=
  match s.slot? workspaceId with
  | some slot => (slot.map, s)
  | none =>
    (s.maps.length, { s with
      workspaces := s.workspaces ++ [⟨s.inserted, workspaceId, s.maps.length⟩]
      inserted := s.inserted + 1
      maps := s.maps ++ [[]] })

/-- `map.set(agentId, entry)`, which keeps the place of an entry that is there. -/
def setEntry (agentId : AgentId) (entry : PresenceEntry) :
    List (AgentId × PresenceEntry) → List (AgentId × PresenceEntry)
  | [] => [(agentId, entry)]
  | (id, old) :: rest =>
    if id = agentId then (id, entry) :: rest else (id, old) :: setEntry agentId entry rest

/-- Change the contents of a map. -/
def modifyMap (map : ℕ)
    (f : List (AgentId × PresenceEntry) → List (AgentId × PresenceEntry)) : Tracker :=
  { s with maps := s.maps.modify map f }

/-- `this.broadcast`, up to its first `await`. -/
def broadcast (event : StatusEvent) (sweep : Option ℕ) : Tracker :=
  { s with broadcasts := s.broadcasts ++ [⟨event, sweep⟩] }

variable (ttlMs : ℤ)

/-- `heartbeat`, which reads the clock twice. -/
def heartbeat (workspaceId : WorkspaceId) (agentId : AgentId) (agentName : Option String)
    (now now' : ℤ) : Tracker :=
  let (map, s) := s.ws workspaceId
  let prev := (s.contents map).lookup agentId
  let wasOffline := prev.all fun entry => decide (ttlMs ≤ now - entry.ts)
  let name := orText (agentName.map trim) (orText (prev.map (·.name)) agentId)
  let s := s.modifyMap map (setEntry agentId ⟨now', name⟩)
  let s := { s with touched := (workspaceId, agentId) :: s.touched }
  if wasOffline then s.broadcast ⟨workspaceId, .active, agentId, name⟩ none else s

/-- `disconnect`. -/
def disconnect (workspaceId : WorkspaceId) (agentId : AgentId) (agentName : Option String) :
    Tracker :=
  let (map, s) := s.ws workspaceId
  match (s.contents map).lookup agentId with
  | none => s
  | some prev =>
    let name := orText (agentName.map trim) (orText (some prev.name) agentId)
    let s := s.modifyMap map fun entries => entries.filter fun entry => entry.1 != agentId
    s.broadcast ⟨workspaceId, .offline, agentId, name⟩ none

/-- The stale agents of a map. -/
def staleAgents (now : ℤ) (map : ℕ) : List (AgentId × String) :=
  ((s.contents map).filter fun entry => decide (ttlMs ≤ now - entry.2.ts)).map fun entry =>
    (entry.1, entry.2.name)

/-- The next workspace of a walk that has somebody stale, with its map and the stale agents. -/
def nextStale (now : ℤ) (next : ℕ) : Option (Slot × List (AgentId × String)) :=
  (s.workspaces.filter fun slot => decide (next ≤ slot.number)).findSome? fun slot =>
    let stale := s.staleAgents ttlMs now slot.map
    if stale.isEmpty then none else some (slot, stale)

/-- Put sweep `k` where it is now. -/
def setSweep (k : ℕ) (sweep : Option Sweep) : Tracker := { s with sweeps := s.sweeps.set k sweep }

/-- Announce the next stale agent of sweep `k`, and await it. -/
def announce (k : ℕ) (sweep : Sweep) (agent : AgentId × String) (rest : List (AgentId × String)) :
    Tracker :=
  (s.setSweep k (some { sweep with stale := rest, awaiting := true })).broadcast
    ⟨sweep.workspaceId, .offline, agent.1, agent.2⟩ (some k)

/-- The walk of a sweep from the entry `next` on: the next stale agents go, all of them, and the
first is announced; without any the sweep is over. -/
def walk (k : ℕ) (now : ℤ) (next : ℕ) : Tracker :=
  match s.nextStale ttlMs now next with
  | none => s.setSweep k none
  | some (slot, stale) =>
    let s := s.modifyMap slot.map fun entries =>
      entries.filter fun entry => !(stale.map Prod.fst).contains entry.1
    match stale with
    | [] => s
    | agent :: rest =>
      s.announce k ⟨now, slot.number + 1, slot.workspaceId, slot.map, rest, true⟩ agent rest

/-- `sweep`, up to its first `await`. -/
def sweep (now : ℤ) : Tracker :=
  ({ s with sweeps := s.sweeps ++ [none] } : Tracker).walk ttlMs s.sweeps.length now 0

/-- `this.workspaces.delete(workspaceId)`. -/
def drop (workspaceId : WorkspaceId) : Tracker :=
  { s with workspaces := s.workspaces.filter fun slot => slot.workspaceId != workspaceId }

/-- The sweep goes on after a broadcast. -/
def goOn (k : ℕ) (sweep : Sweep) : Tracker :=
  match sweep.stale with
  | agent :: rest => s.announce k sweep agent rest
  | [] =>
    let s := if (s.contents sweep.map).isEmpty then s.drop sweep.workspaceId else s
    s.walk ttlMs k sweep.now sweep.next

/-- The sweep that awaited a broadcast may go on. -/
def wake (sweep : Option ℕ) : Tracker :=
  match sweep with
  | none => s
  | some k =>
    { s with sweeps := s.sweeps.modify k (Option.map fun sweep => { sweep with awaiting := false }) }

/-- The oldest broadcast is published. -/
def publish (b : Broadcast) (rest : List Broadcast) : Tracker :=
  ({ s with broadcasts := rest, published := b.event :: s.published } : Tracker).wake b.sweep

end Tracker

/-- What can happen. -/
inductive Action
  | heartbeat (workspaceId : WorkspaceId) (agentId : AgentId) (agentName : Option String)
      (now now' : ℤ)
  | disconnect (workspaceId : WorkspaceId) (agentId : AgentId) (agentName : Option String)
  | getOnline (workspaceId : WorkspaceId)
  | sweep (now : ℤ)
  | publish
  | goOn (k : ℕ)

namespace Tracker

/-- One action; `none` where it cannot happen. -/
def act (ttlMs : ℤ) (s : Tracker) : Action → Option Tracker
  | .heartbeat workspaceId agentId agentName now now' =>
    some (s.heartbeat ttlMs workspaceId agentId agentName now now')
  | .disconnect workspaceId agentId agentName => some (s.disconnect workspaceId agentId agentName)
  | .getOnline workspaceId => some (s.ws workspaceId).2
  | .sweep now => some (s.sweep ttlMs now)
  | .publish =>
    match s.broadcasts with
    | [] => none
    | b :: rest => some (s.publish b rest)
  | .goOn k =>
    match s.sweeps[k]? with
    | some (some sweep) => if sweep.awaiting then none else some (s.goOn ttlMs k sweep)
    | _ => none

/-- No call is in flight. -/
def Quiet (s : Tracker) : Prop := s.broadcasts = [] ∧ ∀ (k : ℕ) (sweep : Sweep), s.sweeps[k]? ≠ some (some sweep)

end Tracker

end Presence
