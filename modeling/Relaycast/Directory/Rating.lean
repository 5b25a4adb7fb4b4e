import Mathlib.Algebra.Ring.Int.Defs
import Relaycast.Directory.Tables
import Relaycast.Interleaving.Safety

/-!
# Rating an entry of the directory

`upsertDirectoryRating` writes the rating of one rater, then reads all ratings of the entry and
writes their sum and number to the entry.  Each is a statement of its own.
-/

namespace Directory

open Relational Interleaving Script

/-- The tables that rating reads and writes, and the clock. -/
structure Store where
  agents : List AgentRow
  directoryAgents : Table DirectoryAgentRow
  ratings : Table RatingRow
  clock : Millis

/-- The scores of an entry. -/
def Store.scores (s : Store) (directoryAgentId : DirectoryAgentId) : List ℤ :=
  (s.ratings.select (·.directoryAgentId == directoryAgentId)).map (·.score)

/-- `DirectoryRatingInput`. -/
structure DirectoryRatingInput where
  raterAgentId : AgentId
  score : ℤ
  review : Option String
  deriving DecidableEq

/-- `review || null`. -/
def DirectoryRatingInput.reviewOrNull (data : DirectoryRatingInput) : Option String :=
  data.review.filter (· != "")

/-- `ratingSum` and `ratingCount` of a summary that is written. -/
structure Summary where
  ratingSum : ℤ
  ratingCount : ℕ
  deriving DecidableEq

/-- The summary of some scores. -/
def summaryOf (scores : List ℤ) : Summary := ⟨scores.sum, scores.length⟩

/-! ## Statements -/

inductive Stmt
  /-- `new Date()`. -/
  | newDate
  | findDirectoryAgent (workspaceId : WorkspaceId) (slug : String)
  | findRating (directoryAgentId : DirectoryAgentId) (raterAgentId : AgentId)
  | updateRating (id : String) (data : DirectoryRatingInput) (now : Millis)
  | insertRating (workspaceId : WorkspaceId) (directoryAgentId : DirectoryAgentId)
    (data : DirectoryRatingInput) (now : Millis)
  | findScores (directoryAgentId : DirectoryAgentId)
  | updateSummary (directoryAgentId : DirectoryAgentId) (summary : Summary) (now : Millis)
  | findRater (id : AgentId)

/-- The id of a new rating is generated outside. -/
abbrev Stmt.Answer : Stmt → Type
  | .insertRating .. => String
  | _ => Unit

/-- An insert replies with nothing where a constraint refuses it. -/
abbrev Stmt.Reply : Stmt → Type
  | .newDate => Millis
  | .findDirectoryAgent .. => Option DirectoryAgentRow
  | .findRating .. | .updateRating .. | .insertRating .. => Option RatingRow
  | .findScores _ => List ℤ
  | .updateSummary .. => Unit
  | .findRater _ => Option String

abbrev lang : Language where
  Stmt := Stmt
  Answer := Stmt.Answer
  Reply := Stmt.Reply

/-- Issue one statement and return its reply. -/
abbrev await (q : Stmt) : Prog lang q.Reply := Prog.ask (L := lang) q

/-- What `updateRating` sets. -/
def RatingRow.rated (data : DirectoryRatingInput) (now : Millis) (r : RatingRow) : RatingRow :=
  { r with score := data.score, review := data.reviewOrNull, updatedAt := toSeconds now }

/-- The row `insertRating` inserts. -/
def insertedRating (id : String) (workspaceId : WorkspaceId) (directoryAgentId : DirectoryAgentId)
    (data : DirectoryRatingInput) (now : Millis) : RatingRow where
  id := "drate_" ++ id
  workspaceId := workspaceId
  directoryAgentId := directoryAgentId
  raterAgentId := data.raterAgentId
  score := data.score
  review := data.reviewOrNull
  createdAt := toSeconds now
  updatedAt := toSeconds now

/-- What `updateSummary` sets. -/
def DirectoryAgentRow.summarised (summary : Summary) (now : Millis) (a : DirectoryAgentRow) :
    DirectoryAgentRow :=
  { a with
    ratingSum := summary.ratingSum
    ratingCount := summary.ratingCount
    updatedAt := toSeconds now }

/-- The references of a rating exist. -/
def Store.refers (s : Store) (r : RatingRow) : Bool :=
  s.agents.any (·.id == r.raterAgentId) &&
    s.directoryAgents.rows.any (·.id == r.directoryAgentId)

/-- What a statement replies, and the store it leaves. -/
def run : (q : Stmt) → q.Answer → Store → q.Reply × Store
  | .newDate, _, s => (s.clock, s)
  | .findDirectoryAgent workspaceId slug, _, s =>
    (s.directoryAgents.rows.find? fun a => a.workspaceId == workspaceId && a.slug == slug, s)
  | .findRating directoryAgentId raterAgentId, _, s =>
    (s.ratings.rows.find? fun r =>
      r.directoryAgentId == directoryAgentId && r.raterAgentId == raterAgentId, s)
  | .updateRating id data now, _, s =>
    ((s.ratings.returning (·.id == id) (RatingRow.rated data now)).head?,
      { s with ratings := s.ratings.update (·.id == id) (RatingRow.rated data now) fun _ => rfl })
  | .insertRating workspaceId directoryAgentId data now, id, s =>
    let r := insertedRating id workspaceId directoryAgentId data now
    if h : s.refers r = true ∧ s.ratings.conflicts r = false then
      (some r, { s with ratings := s.ratings.insert r h.2 })
    else (none, s)
  | .findScores directoryAgentId, _, s => (s.scores directoryAgentId, s)
  | .updateSummary directoryAgentId summary now, _, s =>
    ((), { s with
      directoryAgents := s.directoryAgents.update (·.id == directoryAgentId)
        (DirectoryAgentRow.summarised summary now) fun _ => rfl })
  | .findRater id, _, s => ((s.agents.find? (·.id == id)).map (·.name), s)

/-- The store of rating; its clock may be set to anything. -/
def machine : Machine lang Store where
  run := run
  Drift := Millis
  drift now s := { s with clock := now }

/-! ## Programs -/

/-- `codedError`. -/
structure CodedError where
  message : String
  code : String
  status : ℕ
  deriving DecidableEq

def directoryAgentNotFound (slug : String) : CodedError :=
  ⟨"Directory agent \"" ++ slug ++ "\" not found", "directory_agent_not_found", 404⟩

/-- Why a call throws: an error of its own, a constraint of the tables, or a field of `undefined`.
-/
inductive Thrown
  | coded (error : CodedError)
  | constraint
  | typeError
  deriving DecidableEq

/-- What `upsertDirectoryRating` returns. -/
structure RatingView where
  id : String
  score : ℤ
  review : Option String
  raterAgentId : AgentId
  raterAgentName : String
  createdAt : Seconds
  updatedAt : Seconds
  deriving DecidableEq

def RatingRow.view (saved : RatingRow) (rater : Option String) : RatingView where
  id := saved.id
  score := saved.score
  review := saved.review
  raterAgentId := saved.raterAgentId
  raterAgentName := (rater.filter (· != "")).getD "unknown"
  createdAt := saved.createdAt
  updatedAt := saved.updatedAt

def recalculateRatingSummary (directoryAgentId : DirectoryAgentId) : Prog lang Unit := do
  let scores : List ℤ ← await (.findScores directoryAgentId)
  let now : Millis ← await .newDate
  await (.updateSummary directoryAgentId (summaryOf scores) now)

/-- What `upsertDirectoryRating` does once it has written the rating. -/
def summariseAndReturn (directoryAgentId : DirectoryAgentId) (saved : Option RatingRow) :
    Prog lang (Except Thrown RatingView) := do
  recalculateRatingSummary directoryAgentId
  match saved with
  | none => return .error .typeError
  | some saved => do
    let rater : Option String ← await (.findRater saved.raterAgentId)
    return .ok (saved.view rater)

def upsertDirectoryRating (workspaceId : WorkspaceId) (slug : String)
    (data : DirectoryRatingInput) : Prog lang (Except Thrown RatingView) := do
  let row : Option DirectoryAgentRow ← await (.findDirectoryAgent workspaceId slug)
  match row with
  | none => return .error (.coded (directoryAgentNotFound slug))
  | some row => do
    let existing : Option RatingRow ← await (.findRating row.id data.raterAgentId)
    let now : Millis ← await .newDate
    match existing with
    | some existing => do
      let saved : Option RatingRow ← await (.updateRating existing.id data now)
      summariseAndReturn row.id saved
    | none => do
      let inserted : Option RatingRow ← await (.insertRating workspaceId row.id data now)
      match inserted with
      | none => return .error .constraint
      | some saved => summariseAndReturn row.id (some saved)

/-! ## The system -/

/-- A call of `upsertDirectoryRating`. -/
structure Call where
  workspaceId : WorkspaceId
  slug : String
  data : DirectoryRatingInput

abbrev Result (_ : Call) : Type := Except Thrown RatingView

/-- The summary of an entry says what its ratings are. -/
def Store.summarises (s : Store) (a : DirectoryAgentRow) : Prop :=
  ⟨a.ratingSum, a.ratingCount⟩ = summaryOf (s.scores a.id)

/-- Any number of calls, from a directory in which every summary is right. -/
def system : System lang Store Call Result where
  toMachine := machine
  body c := upsertDirectoryRating c.workspaceId c.slug c.data
  init s := ∀ a ∈ s.directoryAgents, s.summarises a

end Directory
