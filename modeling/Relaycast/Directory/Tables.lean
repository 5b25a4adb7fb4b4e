import Mathlib.Data.Int.Notation
import Relaycast.Relational.Table
import Relaycast.Relational.Timestamp
import Relaycast.Script.Json

/-!
# Tables of the directory

The entries of the directory with the skills they list, and the ratings that agents gave them.  An
entry carries a summary of its ratings.  Columns that hold JSON are given as what is parsed of them.
-/

namespace Directory

open Relational Script

abbrev WorkspaceId := String
abbrev AgentId := String
abbrev DirectoryAgentId := String

/-- A row of `agents`. -/
structure AgentRow where
  id : AgentId
  name : String
  deriving DecidableEq

/-- A row of `directory_agents`. -/
structure DirectoryAgentRow where
  id : DirectoryAgentId
  workspaceId : WorkspaceId
  sourceAgentId : Option AgentId
  slug : String
  name : String
  description : Option String
  provider : Option String
  endpointUrl : Option String
  documentationUrl : Option String
  version : Option String
  tags : List String
  capabilities : Json
  metadata : Json
  status : String
  ratingSum : ℤ
  ratingCount : ℕ
  createdAt : Seconds
  updatedAt : Seconds

instance : Keyed DirectoryAgentRow where
  Key := DirectoryAgentId × WorkspaceId × String
  key r := (r.id, r.workspaceId, r.slug)
  clash k k' := k.1 == k'.1 || k.2 == k'.2
  clash_comm k k' := by rw [Bool.beq_comm (a := k.1), Bool.beq_comm (a := k.2)]

/-- A row of `directory_skills`. -/
structure DirectorySkillRow where
  id : String
  directoryAgentId : DirectoryAgentId
  skillId : Option String
  name : String
  description : Option String
  tags : List String
  metadata : Json
  position : ℕ

/-- A row of `directory_ratings`. -/
structure RatingRow where
  id : String
  workspaceId : WorkspaceId
  directoryAgentId : DirectoryAgentId
  raterAgentId : AgentId
  score : ℤ
  review : Option String
  createdAt : Seconds
  updatedAt : Seconds
  deriving DecidableEq

instance : Keyed RatingRow where
  Key := String × DirectoryAgentId × AgentId
  key r := (r.id, r.directoryAgentId, r.raterAgentId)
  clash k k' := k.1 == k'.1 || k.2 == k'.2
  clash_comm k k' := by rw [Bool.beq_comm (a := k.1), Bool.beq_comm (a := k.2)]

/-- A rater rates an entry once. -/
lemma RatingRow.eq_of_rater {T : Table RatingRow} {r r' : RatingRow} (hr : r ∈ T) (hr' : r' ∈ T)
    (hagent : r.directoryAgentId = r'.directoryAgentId)
    (hrater : r.raterAgentId = r'.raterAgentId) : r = r' :=
  Table.eq_of_clash hr hr' (by simp [Keyed.clash, Keyed.key, hagent, hrater])

/-- An entry is determined by its id. -/
lemma DirectoryAgentRow.eq_of_id {T : Table DirectoryAgentRow} {a a' : DirectoryAgentRow}
    (ha : a ∈ T) (ha' : a' ∈ T) (hid : a.id = a'.id) : a = a' :=
  Table.eq_of_clash ha ha' (by simp [Keyed.clash, Keyed.key, hid])

end Directory
