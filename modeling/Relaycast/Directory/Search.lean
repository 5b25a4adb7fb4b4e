import Mathlib.Algebra.Order.Ring.Unbundled.Rat
import Mathlib.Data.PNat.Notation
import Mathlib.Data.Rat.Defs
import Relaycast.Directory.Tables
import Relaycast.Script.Text

/-!
# Searching the directory

`searchDirectory` fetches the entries of a status in the order of their numbers of ratings, as many
as `effectiveLimit` says, keeps those that match the query and the tags, scores and sorts them, and
returns the first of them.

The ranks of the full-text indexes are a parameter (`FullText`), and so are the functions of the
runtime and the arithmetic of the scores (`Runtime`).
-/

namespace Directory

open Relational Script

/-- The tables that a search reads. -/
structure Tables where
  directoryAgents : Table DirectoryAgentRow
  directorySkills : List DirectorySkillRow

/-- What the full-text indexes match to a query: entries and skills by their ids, with their
ranks. -/
structure FullText where
  directoryAgents : String → List (DirectoryAgentId × ℚ)
  directorySkills : String → List (String × ℚ)

/-- What a score is computed from. -/
structure ScoreInput where
  agentRank : Option ℚ
  skillRank : Option ℚ
  tagMatches : ℕ
  ratingSum : ℤ
  ratingCount : ℕ

/-- Functions of the runtime, and the arithmetic of the scores. -/
structure Runtime where
  toLowerCase : String → String
  /-- `\p{L}` or `\p{N}`. -/
  isLetterOrNumber : Char → Bool
  localeCompare : String → String → Ordering
  localeCompare_oriented : Std.OrientedCmp localeCompare
  localeCompare_trans : Std.TransCmp localeCompare
  relevanceScore : ScoreInput → ℚ
  /-- `Number((ratingSum / ratingCount).toFixed(2))`. -/
  ratingQuotient : ℤ → ℕ → ℚ

section

variable (R : Runtime)

/-- `buildFtsQuery`. -/
def buildFtsQuery (q : String) : String :=
  let kept := (trim (R.toLowerCase q)).toList.map fun c =>
    if R.isLetterOrNumber c || whiteSpace.contains c || c == '"' then c else ' '
  let terms := (kept.splitOnP whiteSpace.contains).filter (!·.isEmpty)
  " ".intercalate (terms.map String.ofList)

def normalizeTags (tags : List String) : List String :=
  ((tags.map fun tag => R.toLowerCase (trim tag)).filter (· != "")).eraseDups

end

/-- The options of a search; the route refuses a limit that is not positive. -/
structure SearchOptions where
  q : Option String
  tags : Option (List String)
  status : Option String
  limit : Option ℕ+

namespace SearchOptions

variable (R : Runtime) (opts : SearchOptions)

def normalizedTags : List String := normalizeTags R (opts.tags.getD [])

/-- The terms of the query; empty if there is none. -/
def ftsQuery : String := ((opts.q.filter (· != "")).map (buildFtsQuery R)).getD ""

/-- The number of entries that are returned at most. -/
def limitOrDefault : ℕ := min (max ((opts.limit.map PNat.val).getD 20) 1) 100

def statusFilter : String := orText opts.status "active"

/-- The number of entries that are fetched at most. -/
def effectiveLimit : ℕ :=
  if opts.ftsQuery R ≠ "" then max (opts.limitOrDefault * 3) opts.limitOrDefault
  else max (opts.limitOrDefault * 10) 250

end SearchOptions

/-! ## What is fetched -/

namespace Tables

variable (s : Tables) (fts : FullText) (workspaceId : WorkspaceId)

/-- Is it an entry of the workspace? -/
def inWorkspace (id : DirectoryAgentId) : Bool :=
  s.directoryAgents.rows.any fun a => a.id == id && a.workspaceId == workspaceId

/-- The entries of the workspace that match by themselves. -/
def agentMatches (query : String) : List (DirectoryAgentId × ℚ) :=
  (fts.directoryAgents query).filter fun m => s.inWorkspace workspaceId m.1

/-- The entries of the workspace that match by a skill. -/
def skillMatches (query : String) : List (DirectoryAgentId × ℚ) :=
  (fts.directorySkills query).filterMap fun m => do
    let skill ← s.directorySkills.find? (·.id == m.1)
    if s.inWorkspace workspaceId skill.directoryAgentId then
      some (skill.directoryAgentId, m.2)
    else none

end Tables

/-- `ORDER BY rating_count DESC, slug ASC`. -/
def DirectoryAgentRow.fetchedBefore (a a' : DirectoryAgentRow) : Bool :=
  decide (a'.ratingCount < a.ratingCount) ||
    (a.ratingCount == a'.ratingCount && decide (a.slug ≤ a'.slug))

/-- `ORDER BY position ASC`. -/
def DirectorySkillRow.positionLe (d d' : DirectorySkillRow) : Bool :=
  decide (d.position ≤ d'.position)

/-- The best rank of an entry, as the map of ranks keeps it. -/
def bestRank (found : List (DirectoryAgentId × ℚ)) (id : DirectoryAgentId) : Option ℚ :=
  ((found.filter (·.1 == id)).map (·.2)).min?

/-- The ranks that a query gives the entries of a workspace. -/
structure Ranks where
  ofAgent : DirectoryAgentId → Option ℚ
  ofSkill : DirectoryAgentId → Option ℚ

/-- Does the entry match by itself or by a skill? -/
def Ranks.matched (ranks : Ranks) (id : DirectoryAgentId) : Bool :=
  (ranks.ofAgent id).isSome || (ranks.ofSkill id).isSome

namespace Tables

variable (s : Tables) (fts : FullText) (workspaceId : WorkspaceId)

/-- The ranks of a query; without one there are none. -/
def ranks (query : String) : Ranks :=
  if query ≠ "" then
    ⟨bestRank (s.agentMatches fts workspaceId query), bestRank (s.skillMatches fts workspaceId query)⟩
  else ⟨fun _ => none, fun _ => none⟩

/-- The entries of a status, in the order in which they are fetched. -/
def ofStatus (status : String) : List DirectoryAgentRow :=
  (s.directoryAgents.select fun a => a.workspaceId == workspaceId && a.status == status).mergeSort
    DirectoryAgentRow.fetchedBefore

/-- `loadSkills`. -/
def loadSkills (directoryAgentIds : List DirectoryAgentId) : List DirectorySkillRow :=
  (s.directorySkills.filter fun d => directoryAgentIds.contains d.directoryAgentId).mergeSort
    DirectorySkillRow.positionLe

end Tables

/-! ## What is returned -/

structure SkillView where
  id : String
  skillId : Option String
  name : String
  description : Option String
  tags : List String
  metadata : Json

def DirectorySkillRow.view (d : DirectorySkillRow) : SkillView :=
  ⟨d.id, d.skillId, d.name, d.description, d.tags, d.metadata⟩

/-- What `searchDirectory` returns of an entry. -/
structure SearchResult where
  id : DirectoryAgentId
  sourceAgentId : Option AgentId
  slug : String
  name : String
  description : Option String
  provider : Option String
  endpointUrl : Option String
  documentationUrl : Option String
  version : Option String
  tags : List String
  capabilities : Json
  metadata : Json
  status : String
  ratingAvg : ℚ
  ratingCount : ℕ
  skills : List SkillView
  createdAt : Seconds
  updatedAt : Seconds
  relevanceScore : ℚ

section

variable (R : Runtime)

/-- `ratingAverage`. -/
def ratingAverage (a : DirectoryAgentRow) : ℚ :=
  if a.ratingCount = 0 then 0 else R.ratingQuotient a.ratingSum a.ratingCount

/-- The tags of an entry and of its skills. -/
def allTags (a : DirectoryAgentRow) (skills : List DirectorySkillRow) : List String :=
  normalizeTags R a.tags ++ skills.flatMap fun d => normalizeTags R d.tags

/-- Does the entry have one of the tags that are asked for, if any are? -/
def tagged (tags : List String) (a : DirectoryAgentRow) (skills : List DirectorySkillRow) : Bool :=
  tags.isEmpty || tags.any (allTags R a skills).contains

/-- An entry with its score. -/
def enriched (ranks : Ranks) (tags : List String) (a : DirectoryAgentRow)
    (skills : List DirectorySkillRow) : SearchResult where
  id := a.id
  sourceAgentId := a.sourceAgentId
  slug := a.slug
  name := a.name
  description := a.description
  provider := a.provider
  endpointUrl := a.endpointUrl
  documentationUrl := a.documentationUrl
  version := a.version
  tags := a.tags
  capabilities := a.capabilities
  metadata := a.metadata
  status := a.status
  ratingAvg := ratingAverage R a
  ratingCount := a.ratingCount
  skills := skills.map DirectorySkillRow.view
  createdAt := a.createdAt
  updatedAt := a.updatedAt
  relevanceScore := R.relevanceScore
    { agentRank := ranks.ofAgent a.id
      skillRank := ranks.ofSkill a.id
      tagMatches := (tags.filter (allTags R a skills).contains).length
      ratingSum := a.ratingSum
      ratingCount := a.ratingCount }

/-- The order of the results: the more relevant first. -/
def SearchResult.inOrder (r r' : SearchResult) : Bool :=
  if r.relevanceScore ≠ r'.relevanceScore then decide (r'.relevanceScore < r.relevanceScore)
  else if r.ratingCount ≠ r'.ratingCount then decide (r'.ratingCount < r.ratingCount)
  else R.localeCompare r.slug r'.slug != .gt

/-- `searchDirectory`. -/
def searchDirectory (s : Tables) (fts : FullText) (workspaceId : WorkspaceId)
    (opts : SearchOptions) : List SearchResult :=
  let tags := opts.normalizedTags R
  let query := opts.ftsQuery R
  if query = "" ∧ tags = [] then []
  else
    let ranks := s.ranks fts workspaceId query
    let fetched := (s.ofStatus workspaceId opts.statusFilter).take (opts.effectiveLimit R)
    let rows := fetched.filter fun a => query == "" || ranks.matched a.id
    let loaded := s.loadSkills (rows.map (·.id))
    let skillsOf := fun a : DirectoryAgentRow => loaded.filter (·.directoryAgentId == a.id)
    let filtered := rows.filter fun a => tagged R tags a (skillsOf a)
    let scored := filtered.map fun a => enriched R ranks tags a (skillsOf a)
    (scored.mergeSort (SearchResult.inOrder R)).take opts.limitOrDefault

end

end Directory
