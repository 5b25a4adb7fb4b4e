import Relaycast.Relational.Table
import Relaycast.Relational.Timestamp

/-!
# The status an agent had before it lost liveness

A sweep or a lost connection takes an agent offline and saves the work state it replaces; the next
sign of life puts that state back.  Every other write of the status supersedes the saved one, and
its writers know nothing of the column: the trigger of migration 0070 clears it for them, unless
the statement that wrote the status changed it as well.

A statement hits the rows its `WHERE` clause selects, row by row.  The clauses of the callers
differ, so a statement carries its own; what a kind of write needs of the row is part of the kind.
`explicitStatus` follows a row through the statements and remembers the last status that was written
on purpose.
-/

namespace Liveness

open Relational

abbrev AgentId := String
abbrev Status := String

def OFFLINE : Status := "offline"
def ACTIVE : Status := "active"
def RELEASED_AGENT_STATUS : Status := "released"

/-- A row of `agents`. -/
structure AgentRow where
  id : AgentId
  status : Status
  statusBeforeLivenessLoss : Option Status
  lastSeen : Seconds
  deriving DecidableEq

instance : Keyed AgentRow where
  Key := AgentId
  key := AgentRow.id
  clash k k' := k == k'
  clash_comm _ _ := Bool.beq_comm

/-- The writes of `agents` rows: a status set by a client or a release, a liveness loss with or
without a `last_seen`, a refresh, a move onto a node, and the `last_seen` of a lost route. -/
inductive AgentWrite
  | setStatus (status : Status)
  | livenessLoss (lastSeen : Option Seconds)
  | livenessRefresh (now : Seconds)
  | move (now : Seconds)
  | routeLoss (routeLostAt : Seconds)
  deriving DecidableEq

/-- An `UPDATE`: what it sets, and where. -/
structure Statement where
  write : AgentWrite
  scope : AgentRow → Bool

/-- `agentLivenessLoss`. -/
def agentLivenessLoss (r : AgentRow) : AgentRow :=
  { r with status := OFFLINE, statusBeforeLivenessLoss := some r.status }

/-- `agentLivenessRefresh`. -/
def agentLivenessRefresh (now : Seconds) (r : AgentRow) : AgentRow :=
  { r with
    lastSeen := now
    status := if r.status = OFFLINE then r.statusBeforeLivenessLoss.getD r.status else r.status
    statusBeforeLivenessLoss := none }

/-- The `SET` clause of a write. -/
def AgentWrite.set : AgentWrite → AgentRow → AgentRow
  | .setStatus status, r => { r with status := status }
  | .livenessLoss none, r => agentLivenessLoss r
  | .livenessLoss (some lastSeen), r => { agentLivenessLoss r with lastSeen := lastSeen }
  | .livenessRefresh now, r => agentLivenessRefresh now r
  | .move now, r => { r with status := ACTIVE, lastSeen := now }
  | .routeLoss routeLostAt, r => { r with lastSeen := routeLostAt }

/-- Is `status` among the columns the write sets? -/
def AgentWrite.ofStatus : AgentWrite → Bool
  | .routeLoss _ => false
  | _ => true

/-- What a kind of write asks of every row it hits: a loss excludes rows that are offline already
or released, and a lost route is noted on rows that a loss took offline. -/
def AgentWrite.guard : AgentWrite → AgentRow → Bool
  | .livenessLoss _, r => r.status != OFFLINE && r.status != RELEASED_AGENT_STATUS
  | .routeLoss _, r => r.status == OFFLINE && r.statusBeforeLivenessLoss.isSome
  | _, _ => true

/-- The trigger `agents_clear_liveness_recovery`, after an update of `status`. -/
def agentsClearLivenessRecovery (old new : AgentRow) : AgentRow :=
  if new.statusBeforeLivenessLoss.isSome &&
      new.statusBeforeLivenessLoss = old.statusBeforeLivenessLoss then
    { new with statusBeforeLivenessLoss := none }
  else new

/-- Does the statement hit the row? -/
def Statement.hits (st : Statement) (r : AgentRow) : Bool := st.scope r && st.write.guard r

/-- What the statement leaves of a row it hits. -/
def Statement.updated (st : Statement) (r : AgentRow) : AgentRow :=
  if st.write.ofStatus then agentsClearLivenessRecovery r (st.write.set r) else st.write.set r

@[simp] lemma updated_id (st : Statement) (r : AgentRow) : (st.updated r).id = r.id := by
  obtain ⟨write, scope⟩ := st
  unfold Statement.updated agentsClearLivenessRecovery
  cases write with
  | livenessLoss lastSeen =>
    cases lastSeen <;> split <;> try split
    all_goals rfl
  | _ =>
    split
    · split <;> rfl
    · rfl

/-- The table after a statement. -/
def Statement.run (st : Statement) (agents : Table AgentRow) : Table AgentRow :=
  agents.update st.hits st.updated fun r => updated_id st r

/-- The table after the statements, latest first. -/
def after (agents : Table AgentRow) : List Statement → Table AgentRow
  | [] => agents
  | st :: sts => st.run (after agents sts)

/-! ## The statements of the callers -/

/-- `touchLastSeen`. -/
def touchLastSeen (agentId : AgentId) (now : Seconds) : Statement where
  write := .livenessRefresh now
  scope r := r.id == agentId && r.status != RELEASED_AGENT_STATUS

/-- The second statement of `sweepStaleAgents`; the first one only moves a `last_seen` out of the
future. -/
def sweepStaleAgents (cutoff : Seconds) (swept : AgentRow → Bool) : Statement where
  write := .livenessLoss none
  scope r := (r.status == ACTIVE || r.status == "online") && r.lastSeen < cutoff && swept r

/-- The two statements of `settleNodeOffline` on the agents located on a node, latest first. -/
def settleNodeOfflineAgents (located : AgentRow → Bool) (routeLostAt : Seconds) :
    List Statement :=
  [⟨.routeLoss routeLostAt, located⟩, ⟨.livenessLoss (some routeLostAt), located⟩]

/-! ## What a row goes through -/

/-- A row after the statements, latest first. -/
def rowAfter (r : AgentRow) : List Statement → AgentRow
  | [] => r
  | st :: sts => if st.hits (rowAfter r sts) then st.updated (rowAfter r sts) else rowAfter r sts

/-- The last status written to the row on purpose, or the one it began with. -/
def explicitStatus (r : AgentRow) : List Statement → Status
  | [] => r.status
  | st :: sts =>
    if st.hits (rowAfter r sts) then
      match st.write with
      | .setStatus status => status
      | .move _ => ACTIVE
      | _ => explicitStatus r sts
    else explicitStatus r sts

/-- The rows of the table are the rows it began with, each after the statements. -/
lemma mem_after {agents : Table AgentRow} {sts : List Statement} {r : AgentRow} :
    r ∈ after agents sts ↔ ∃ r₀ ∈ agents, r = rowAfter r₀ sts := by
  induction sts generalizing r with
  | nil => simp [after, rowAfter]
  | cons st sts ih =>
    unfold after Statement.run
    rw [Table.mem_update]
    constructor
    · rintro ⟨r', hr', rfl⟩
      obtain ⟨r₀, hr₀, rfl⟩ := ih.mp hr'
      exact ⟨r₀, hr₀, rfl⟩
    · rintro ⟨r₀, hr₀, rfl⟩
      exact ⟨rowAfter r₀ sts, ih.mpr ⟨r₀, hr₀, rfl⟩, rfl⟩

/-- The row shows the status written last, or it lost liveness in it. -/
def Tracks (r : AgentRow) (status : Status) : Prop :=
  (r.status = status ∧ r.statusBeforeLivenessLoss = none) ∨
    (r.status = OFFLINE ∧ r.statusBeforeLivenessLoss = some status ∧ status ≠ OFFLINE)

lemma Tracks.saved_offline {r : AgentRow} {status : Status} (h : Tracks r status)
    (hsaved : r.statusBeforeLivenessLoss ≠ none) : r.status = OFFLINE := by
  rcases h with ⟨-, hnone⟩ | ⟨hoffline, -, -⟩
  · exact absurd hnone hsaved
  · exact hoffline

/-- The trigger takes back what a statement on the status leaves alone. -/
lemma cleared_of_same (old new : AgentRow)
    (h : new.statusBeforeLivenessLoss = old.statusBeforeLivenessLoss) :
    (agentsClearLivenessRecovery old new).statusBeforeLivenessLoss = none ∧
      (agentsClearLivenessRecovery old new).status = new.status := by
  unfold agentsClearLivenessRecovery
  cases hnew : new.statusBeforeLivenessLoss with
  | none => simp [hnew]
  | some saved =>
    have hold : old.statusBeforeLivenessLoss = some saved := h.symm.trans hnew
    simp [hold]

/-- The trigger leaves alone what a statement sets anew. -/
lemma kept_of_none {old new : AgentRow} (h : old.statusBeforeLivenessLoss = none) :
    agentsClearLivenessRecovery old new = new := by
  unfold agentsClearLivenessRecovery
  rw [h]
  cases new.statusBeforeLivenessLoss <;> simp

/-- A loss hits rows that show the status written last. -/
lemma Tracks.of_live {r : AgentRow} {status : Status} (h : Tracks r status)
    (hlive : r.status ≠ OFFLINE) : r.status = status ∧ r.statusBeforeLivenessLoss = none := by
  rcases h with h | ⟨hoffline, -, -⟩
  · exact h
  · exact absurd hoffline hlive

lemma Tracks.loss {r : AgentRow} {status : Status} {scope : AgentRow → Bool}
    {lastSeen : Option Seconds} (h : Tracks r status)
    (hhits : Statement.hits ⟨.livenessLoss lastSeen, scope⟩ r = true) :
    Tracks (Statement.updated ⟨.livenessLoss lastSeen, scope⟩ r) status := by
  have hlive : r.status ≠ OFFLINE := by
    simp only [Statement.hits, AgentWrite.guard, Bool.and_eq_true, bne_iff_ne] at hhits
    exact hhits.2.1
  obtain ⟨hstatus, hnone⟩ := h.of_live hlive
  unfold Statement.updated
  rw [kept_of_none hnone]
  cases lastSeen <;> exact .inr ⟨rfl, congrArg some hstatus, hstatus ▸ hlive⟩

lemma Tracks.refresh {r : AgentRow} {status : Status} {scope : AgentRow → Bool} {now : Seconds}
    (h : Tracks r status) :
    (Statement.updated ⟨.livenessRefresh now, scope⟩ r).status = status ∧
      (Statement.updated ⟨.livenessRefresh now, scope⟩ r).statusBeforeLivenessLoss = none := by
  have hset : Statement.updated ⟨.livenessRefresh now, scope⟩ r = agentLivenessRefresh now r := by
    simp [Statement.updated, AgentWrite.ofStatus, AgentWrite.set, agentsClearLivenessRecovery,
      agentLivenessRefresh]
  rw [hset]
  refine ⟨?_, rfl⟩
  rcases h with ⟨hstatus, hnone⟩ | ⟨hoffline, hsaved, -⟩
  · simp [agentLivenessRefresh, hnone, hstatus]
  · simp [agentLivenessRefresh, hoffline, hsaved]

/-- One statement keeps track. -/
lemma tracks_step {r : AgentRow} {st : Statement} {sts : List Statement}
    (h : Tracks (rowAfter r sts) (explicitStatus r sts)) :
    Tracks (rowAfter r (st :: sts)) (explicitStatus r (st :: sts)) := by
  obtain ⟨write, scope⟩ := st
  unfold rowAfter explicitStatus
  split
  · next hhits =>
    cases write with
    | setStatus status =>
      obtain ⟨hnone, hstatus⟩ := cleared_of_same (rowAfter r sts)
        { rowAfter r sts with status := status } rfl
      exact .inl ⟨hstatus, hnone⟩
    | livenessLoss lastSeen => exact h.loss hhits
    | livenessRefresh now => exact .inl h.refresh
    | move now =>
      obtain ⟨hnone, hstatus⟩ := cleared_of_same (rowAfter r sts)
        { rowAfter r sts with status := ACTIVE, lastSeen := now } rfl
      exact .inl ⟨hstatus, hnone⟩
    | routeLoss routeLostAt => exact h
  · exact h

/-- A row keeps track from the moment it is inserted, when nothing is saved. -/
lemma tracks_rowAfter {r : AgentRow} (hr : r.statusBeforeLivenessLoss = none)
    (sts : List Statement) : Tracks (rowAfter r sts) (explicitStatus r sts) := by
  induction sts with
  | nil => exact .inl ⟨rfl, hr⟩
  | cons st sts ih => exact tracks_step ih

/-- **A refresh restores the status written last, and only a loss is undone.**  In every run of the
statements from a table in which nothing is saved, a row has a saved status only while it is
offline; and once a refresh has hit a row, the row shows the last status written to it on purpose,
be it `offline`, with nothing saved. -/
theorem refresh_restores_explicitStatus (agents : Table AgentRow)
    (hagents : ∀ r ∈ agents, r.statusBeforeLivenessLoss = none) (sts : List Statement) :
    (∀ r ∈ after agents sts, r.statusBeforeLivenessLoss ≠ none → r.status = OFFLINE) ∧
    ∀ r₀ ∈ agents, rowAfter r₀ sts ∈ after agents sts ∧
      ∀ st earlier now, sts = st :: earlier → st.write = .livenessRefresh now →
        st.hits (rowAfter r₀ earlier) = true →
          (rowAfter r₀ sts).status = explicitStatus r₀ sts ∧
            (rowAfter r₀ sts).statusBeforeLivenessLoss = none := by
  refine ⟨fun r hr hsaved => ?_, fun r₀ hr₀ => ⟨mem_after.mpr ⟨r₀, hr₀, rfl⟩, ?_⟩⟩
  · obtain ⟨r₀, hr₀, rfl⟩ := mem_after.mp hr
    exact (tracks_rowAfter (hagents r₀ hr₀) sts).saved_offline hsaved
  · rintro ⟨write, scope⟩ earlier now rfl rfl hhits
    unfold rowAfter explicitStatus
    rw [if_pos hhits, if_pos hhits]
    exact (tracks_rowAfter (hagents r₀ hr₀) earlier).refresh

/-- An agent that set itself busy, lost liveness twice, and is seen again. -/
def busyAgent : Table AgentRow :=
  Table.empty.insertOrIgnore ⟨"a", ACTIVE, none, 0⟩

/-- What hits it before it is seen again, latest first. -/
def busyRun : List Statement :=
  [⟨.livenessLoss none, fun _ => true⟩, touchLastSeen "a" 6, sweepStaleAgents 5 fun _ => true,
    ⟨.setStatus "busy", fun _ => true⟩]

theorem refresh_restores_explicitStatus_busy :
    (rowAfter ⟨"a", ACTIVE, none, 0⟩ (touchLastSeen "a" 9 :: busyRun)).status = "busy" := by
  have hagents : ∀ r ∈ busyAgent, r.statusBeforeLivenessLoss = none := by
    have hall : busyAgent.rows.all (fun r => r.statusBeforeLivenessLoss == none) = true := by
      decide
    intro r hr
    exact eq_of_beq (List.all_eq_true.mp hall r hr)
  have hrow : (⟨"a", ACTIVE, none, 0⟩ : AgentRow) ∈ busyAgent :=
    Table.mem_insertOrIgnore_self rfl
  have hstatus := ((refresh_restores_explicitStatus busyAgent hagents
    (touchLastSeen "a" 9 :: busyRun)).2 _ hrow).2 _ busyRun _ rfl rfl (by decide)
  rw [hstatus.1]
  decide

end Liveness
