import Mathlib.Algebra.GroupWithZero.Nat
import Relaycast.Interleaving.Throwing
import Relaycast.Relational.Timestamp
import Relaycast.Script.ObjectText
import Relaycast.Script.Text

/-!
# Updating a workspace

`updateWorkspace` writes the name and the prompt of a workspace, and merges a patch into its
metadata. The metadata is one text column, so a patch is a compare-and-swap: the row is read, the
patch merged into what the text is read as, and the result written if the column still holds the
text of what was read.  After eight attempts the call gives up.

Other calls write the name and the prompt only.  A row is not deleted in between.
-/

namespace WorkspaceMetadata

open Interleaving Relational Script

abbrev WorkspaceId := String

/-- What a call throws: an error with a code, or that of a text that cannot be read. -/
inductive Failure
  | coded (message code : String) (status : ℕ)
  | unreadable
  deriving DecidableEq

/-! ## What metadata may hold -/

/-- `WORKSPACE_METADATA_MAX_BYTES`. -/
def WORKSPACE_METADATA_MAX_BYTES : ℕ := 16 * 1024

/-- `WORKSPACE_METADATA_MAX_KEYS`. -/
def WORKSPACE_METADATA_MAX_KEYS : ℕ := 100

/-- `WORKSPACE_METADATA_MAX_DEPTH`. -/
def WORKSPACE_METADATA_MAX_DEPTH : ℕ := 8

/-- `WORKSPACE_METADATA_MAX_KEY_LENGTH`. -/
def WORKSPACE_METADATA_MAX_KEY_LENGTH : ℕ := 128

/-- `/[a-z0-9]/`. -/
def isWordChar (c : Char) : Bool := c.isLower || c.isDigit

/-- `key.replace(/([a-z0-9])([A-Z])/g, '$1_$2')`. -/
def splitWords : List Char → List Char
  | c :: d :: rest =>
    if isWordChar c && d.isUpper then c :: '_' :: splitWords (d :: rest)
    else c :: splitWords (d :: rest)
  | text => text

/-- What stands alone in the key of a secret. -/
def secretWords : List String :=
  ["token", "tokens", "secret", "secrets", "password", "passwords", "passwd", "authorization",
    "credential", "credentials"]

/-- What stands before `key` in the key of a secret. -/
def secretKeyKinds : List String := ["api", "private", "access", "refresh"]

/-- Compounds in the key of a secret. -/
def secretCompounds : List String :=
  (["access", "refresh", "api", "auth", "bearer", "session", "client", "id"].flatMap fun owner =>
    [owner ++ "token", owner ++ "tokens"]) ++
  (["client", "app", "shared", "signing", "webhook", "consumer"].flatMap fun owner =>
    [owner ++ "secret", owner ++ "secrets"]) ++
  ["secretkey", "secretkeys", "passwordhash", "passworddigest", "passwordsalt"]

/-- Keys that objects treat specially. -/
def specialKeys : List String := ["__proto__", "prototype", "constructor"]

/-- Is the key that of a secret, or one that objects treat specially? -/
def isSecretLike (key : String) : Bool :=
  let normalized := toLowerCase (splitWords key.toList)
  let parts := (normalized.splitOnP (!isWordChar ·)).map String.ofList
  specialKeys.contains key ||
    parts.any secretWords.contains ||
    (normalized.tails.any fun rest => secretKeyKinds.any fun kind =>
      kind.toList.isPrefixOf rest &&
        "key".toList.isPrefixOf ((rest.drop kind.length).dropWhile (!isWordChar ·))) ||
    parts.any secretCompounds.contains

def tooDeep : String :=
  "metadata must contain at most 8 nested object/array levels below its root"

mutual

/-- `metadataProblem`. -/
def metadataProblem (depth : ℕ) : Json → Option String
  | .arr items =>
    if WORKSPACE_METADATA_MAX_DEPTH < depth then some tooDeep else itemsProblem (depth + 1) items
  | .obj fields =>
    if WORKSPACE_METADATA_MAX_DEPTH < depth then some tooDeep else fieldsProblem (depth + 1) fields
  | .null => none
  | .bool _ => none
  | .num _ => none
  | .str _ => none

def itemsProblem (depth : ℕ) : List Json → Option String
  | [] => none
  | item :: items => (metadataProblem depth item).or (itemsProblem depth items)

def fieldsProblem (depth : ℕ) : List (String × Json) → Option String
  | [] => none
  | (key, item) :: fields =>
    if WORKSPACE_METADATA_MAX_KEY_LENGTH < key.length then
      some "metadata keys must be at most 128 Unicode code points"
    else if isSecretLike key then some "metadata must not contain secret-like keys"
    else (metadataProblem depth item).or (fieldsProblem depth fields)

end

/-- The length of a text in bytes. -/
def byteLength (text : List Char) : ℕ := (text.map Char.utf8Size).sum

/-- What the schema says against metadata. -/
def metadataIssue (metadata : JsonObject) : Option String :=
  let problem :=
    if WORKSPACE_METADATA_MAX_KEYS < metadata.dict.entries.length then
      some "metadata must contain at most 100 top-level keys"
    else metadataProblem 0 (.obj metadata.dict.enumerated.entries)
  problem.or
    (if WORKSPACE_METADATA_MAX_BYTES < byteLength metadata.stringify then
      some "metadata must be at most 16384 UTF-8 bytes" else none)

/-- `validatedMetadata`.  What it returns is a copy with the same entries. -/
def validatedMetadata (metadata : JsonObject) : Except Failure JsonObject :=
  match metadataIssue metadata with
  | some message => .error (.coded message "invalid_metadata" 400)
  | none => .ok metadata

/-! ## Merging -/

/-- One entry of a patch. -/
def mergeEntry (merged : Dict Json) : String × Json → Dict Json
  | (key, .null) => merged.erase key
  | (key, value) => merged.set key value

/-- The patch merged into metadata. -/
def mergeDict (metadata patch : Dict Json) : Dict Json :=
  patch.enumerated.entries.foldl mergeEntry metadata

lemma mem_mergeEntry {merged : Dict Json} {entry entry' : String × Json}
    (h : entry' ∈ (mergeEntry merged entry).entries) : entry' ∈ merged.entries ∨ entry' = entry := by
  obtain ⟨key, value⟩ := entry
  obtain ⟨key', value'⟩ := entry'
  unfold mergeEntry at h
  split at h
  · exact .inl (Dict.mem_erase.mp h).2
  · rename_i heq
    obtain ⟨rfl, rfl⟩ := Prod.mk.inj heq
    rcases Dict.mem_set.mp h with ⟨rfl, rfl⟩ | ⟨-, h⟩
    · exact .inr rfl
    · exact .inl h

lemma mem_foldl_mergeEntry {entries : List (String × Json)} {metadata : Dict Json}
    {entry : String × Json} (h : entry ∈ (entries.foldl mergeEntry metadata).entries) :
    entry ∈ metadata.entries ∨ entry ∈ entries := by
  induction entries generalizing metadata with
  | nil => exact .inl h
  | cons first entries ih =>
    rcases ih h with h | h
    · rcases mem_mergeEntry h with h | rfl
      · exact .inl h
      · exact .inr List.mem_cons_self
    · exact .inr (List.mem_cons_of_mem _ h)

/-- The patch merged into metadata: `null` deletes a key, any other value sets it. -/
def merge (metadata patch : JsonObject) : JsonObject where
  dict := mergeDict metadata.dict patch.dict
  held entry hentry := by
    rcases mem_foldl_mergeEntry hentry with h | h
    · exact metadata.held entry h
    · exact patch.held entry (Dict.mem_enumerated.mp h)

/-! ## The table -/

/-- A row of `workspaces`, with its metadata as a text or as it is read. -/
structure WorkspaceRow (μ : Type) where
  id : WorkspaceId
  name : String
  systemPrompt : Option String
  createdAt : Seconds
  metadata : Option μ
  expiresAt : Option Seconds
  provenance : Option Json
  usageClassification : String
  classificationSource : String
  classificationReason : Option String
  classifiedAt : Option Seconds

/-- The row as it is stored. -/
abbrev Stored := WorkspaceRow (List Char)

/-- The row as it is fetched. -/
abbrev Fetched := WorkspaceRow JsonObject

/-- The table: the row of the workspace, if there is one. -/
abbrev Store := Option Stored

/-- `EffectiveMessageRetention`. -/
structure EffectiveRetention where
  policy : String
  message_ttl_days : Option ℕ
  retained_since : Option Millis
  source : String
  reason : Option String
  deriving DecidableEq

/-- The columns that an update sets, besides the metadata. -/
structure SetClause where
  name : Option String
  systemPrompt : Option (Option String)
  deriving DecidableEq

def SetClause.apply (set : SetClause) (row : Stored) : Stored :=
  { row with
    name := set.name.getD row.name
    systemPrompt := set.systemPrompt.getD row.systemPrompt }

/-! ## The statements -/

inductive Stmt
  | select (id : WorkspaceId)
  /-- The update with the metadata, where the column holds the text of `current`. -/
  | swap (id : WorkspaceId) (set : SetClause) (metadata : JsonObject) (current : Option JsonObject)
  | update (id : WorkspaceId) (set : SetClause)
  /-- `resolveEffectiveMessageRetention`; it fails without an answer. -/
  | retention (id : WorkspaceId)

abbrev lang : Language where
  Stmt := Stmt
  Answer
    | .retention _ => Option EffectiveRetention
    | _ => Unit
  Reply
    | .select _ => Except Failure (Option Fetched)
    | .swap _ _ _ _ => Bool
    | .update _ _ => Bool
    | .retention _ => Option EffectiveRetention

/-- The row with its metadata read. -/
def fetch (J : JsonParse) (row : Stored) : Except Failure Fetched :=
  match row.metadata with
  | none => .ok { row with metadata := none }
  | some text =>
    match J.parse text with
    | none => .error .unreadable
    | some metadata => .ok { row with metadata := some metadata }

def selectRow (J : JsonParse) (id : WorkspaceId) (s : Store) : Except Failure (Option Fetched) :=
  match s.filter (·.id == id) with
  | none => .ok none
  | some row => (fetch J row).map some

def swapRow (id : WorkspaceId) (set : SetClause) (metadata : JsonObject)
    (current : Option JsonObject) (s : Store) : Bool × Store :=
  match s with
  | none => (false, s)
  | some row =>
    if row.id = id ∧ row.metadata = current.map JsonObject.stringify then
      (true, some { set.apply row with metadata := some metadata.stringify })
    else (false, s)

def updateRow (id : WorkspaceId) (set : SetClause) (s : Store) : Bool × Store :=
  match s with
  | none => (false, s)
  | some row => if row.id = id then (true, some (set.apply row)) else (false, s)

def machine (J : JsonParse) : Machine lang Store where
  Drift := Empty
  drift := nofun
  run
    | .select id, _, s => (selectRow J id s, s)
    | .swap id set metadata current, _, s => swapRow id set metadata current s
    | .update id set, _, s => updateRow id set s
    | .retention _, answer, s => (answer, s)

/-! ## The calls -/

/-- What a workspace is returned as. -/
structure PublicWorkspace where
  id : WorkspaceId
  name : String
  system_prompt : Option String
  created_at : Millis
  metadata : Option JsonObject
  effective_retention : EffectiveRetention
  expires_at : Option Millis
  provenance : Option Json
  usage_classification : String
  classification_source : String
  classification_reason : Option String
  classified_at : Option Millis

/-- What is returned when the retention cannot be told. -/
def unknownRetention : EffectiveRetention where
  policy := "unknown"
  message_ttl_days := none
  retained_since := none
  source := "unknown"
  reason := some "boundary_unavailable"

/-- `getWorkspace`. -/
def getWorkspace (id : WorkspaceId) : Throwing lang Failure (Option PublicWorkspace) := do
  let selected : Except Failure (Option Fetched) ← Throwing.lift (Prog.ask (L := lang) (.select id))
  match ← Throwing.ofExcept selected with
  | none => return none
  | some workspace =>
    let retention : Option EffectiveRetention ←
      Throwing.lift (Prog.ask (L := lang) (.retention id))
    return some
      { id := workspace.id
        name := workspace.name
        system_prompt := workspace.systemPrompt
        created_at := toDate workspace.createdAt
        metadata := workspace.metadata
        effective_retention := retention.getD unknownRetention
        expires_at := workspace.expiresAt.map toDate
        provenance := workspace.provenance
        usage_classification := workspace.usageClassification
        classification_source := workspace.classificationSource
        classification_reason := workspace.classificationReason
        classified_at := workspace.classifiedAt.map toDate }

/-- The argument of `updateWorkspace`. -/
structure Updates where
  name : Option String
  system_prompt : Option (Option String)
  metadata : Option JsonObject

def Updates.setClause (u : Updates) : SetClause := ⟨u.name, u.system_prompt⟩

def metadataConflict : Failure :=
  .coded "Workspace metadata changed concurrently; retry the update"
    "workspace_metadata_conflict" 409

/-- So many attempts to merge the patch. -/
def attempts (id : WorkspaceId) (set : SetClause) (patch : JsonObject) :
    ℕ → Throwing lang Failure (Option PublicWorkspace)
  | 0 => throw metadataConflict
  | n + 1 => do
    let selected : Except Failure (Option Fetched) ←
      Throwing.lift (Prog.ask (L := lang) (.select id))
    match ← Throwing.ofExcept selected with
    | none => return none
    | some current =>
      let merged := merge (current.metadata.getD .empty) patch
      let metadata ← Throwing.ofExcept (validatedMetadata merged)
      let updated : Bool ←
        Throwing.lift (Prog.ask (L := lang) (.swap id set metadata current.metadata))
      if updated then getWorkspace id else attempts id set patch n

/-- `updateWorkspace`. -/
def updateWorkspace (id : WorkspaceId) (u : Updates) :
    Throwing lang Failure (Option PublicWorkspace) :=
  if u.name.isNone ∧ u.system_prompt.isNone ∧ u.metadata.isNone then getWorkspace id
  else
    match u.metadata with
    | some metadata => do
      let patch ← Throwing.ofExcept (validatedMetadata metadata)
      attempts id u.setClause patch 8
    | none => do
      let updated : Bool ← Throwing.lift (Prog.ask (L := lang) (.update id u.setClause))
      if updated then getWorkspace id else return none

/-- `setSystemPrompt`, up to its reply. -/
def setSystemPrompt (id : WorkspaceId) (prompt : Option String) : Prog lang Unit := do
  let _ : Bool ← Prog.ask (L := lang) (.update id ⟨none, some prompt⟩)
  return ()

inductive Request
  | update (id : WorkspaceId) (updates : Updates)
  | setSystemPrompt (id : WorkspaceId) (prompt : Option String)

/-- What a call returns. -/
abbrev Result : Request → Type
  | .update _ _ => Except Failure (Option PublicWorkspace)
  | .setSystemPrompt _ _ => Unit

def body : (c : Request) → Prog lang (Result c)
  | .update id u => (updateWorkspace id u).run
  | .setSystemPrompt id prompt => setSystemPrompt id prompt

/-- Calls on a workspace whose row is `s₀` at first. -/
def system (J : JsonParse) (s₀ : Store) : System lang Store Request Result where
  toMachine := machine J
  body := body
  init s := s = s₀

end WorkspaceMetadata
