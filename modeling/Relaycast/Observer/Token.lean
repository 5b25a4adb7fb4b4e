import Mathlib.Data.List.Basic
import Relaycast.Script.Value

/-!
# Observer tokens

An observer token is a read-only credential.  Its scopes say which kinds of things it may read, and
its filters narrow them down to channels, conversations, agents, event types and a starting time.
The same filters are applied twice: to the rows of the database where a resource is read, and to the
events of the workspace stream, where only the event itself is at hand.

How a date is parsed is a parameter.
-/

namespace Observer

open Script

/-- `OBSERVER_SCOPES`. -/
inductive ObserverScope
  | streamRead
  | messagesRead
  | threadsRead
  | dmsRead
  | channelsRead
  | searchRead
  | agentsRead
  | nodesRead
  | deliveriesRead
  | activityRead
  | filesRead
  | reactionsRead
  deriving DecidableEq

/-- The scope a stored name stands for. -/
def ObserverScope.ofName? : String → Option ObserverScope
  | "stream:read" => some .streamRead
  | "messages:read" => some .messagesRead
  | "threads:read" => some .threadsRead
  | "dms:read" => some .dmsRead
  | "channels:read" => some .channelsRead
  | "search:read" => some .searchRead
  | "agents:read" => some .agentsRead
  | "nodes:read" => some .nodesRead
  | "deliveries:read" => some .deliveriesRead
  | "activity:read" => some .activityRead
  | "files:read" => some .filesRead
  | "reactions:read" => some .reactionsRead
  | _ => none

/-- `ObserverTokenFilters`. -/
structure ObserverTokenFilters where
  channelIds : Option (List String)
  channelNames : Option (List String)
  includeDms : Option Bool
  dmConversationIds : Option (List String)
  agentIds : Option (List String)
  eventTypes : Option (List String)
  createdAfter : Option String

/-- The columns of an observer token the filters read. -/
structure ObserverToken where
  scopes : List String
  filters : ObserverTokenFilters

/-- `values?.length ? [...new Set(values)] : undefined`. -/
def distinct (values : Option (List String)) : Option (List String) :=
  match values with
  | some (v :: vs) => some (v :: vs).eraseDups
  | _ => none

def normalizeObserverFilters (filters : ObserverTokenFilters) : ObserverTokenFilters where
  channelIds := distinct filters.channelIds
  channelNames := distinct filters.channelNames
  includeDms := some (filters.includeDms == some true)
  dmConversationIds := distinct filters.dmConversationIds
  agentIds := distinct filters.agentIds
  eventTypes := distinct filters.eventTypes
  createdAfter := filters.createdAfter.filter (· != "")

def publicScopes (scopes : List String) : List ObserverScope :=
  scopes.eraseDups.filterMap ObserverScope.ofName?

def hasObserverScope (observer : ObserverToken) (scope : ObserverScope) : Bool :=
  (publicScopes observer.scopes).contains scope

def hasAnyObserverScope (observer : ObserverToken) (scopes : List ObserverScope) : Bool :=
  scopes.any (hasObserverScope observer)

/-- `filterList`: an empty list filters nothing. -/
def filterList (values : Option (List String)) : Option (List String) :=
  values.filter (!·.isEmpty)

/-- `Boolean(value && ids?.has(value))`. -/
def has (ids : Option (List String)) (value : Option String) : Bool :=
  match ids, value with
  | some ids, some v => v != "" && ids.contains v
  | _, _ => false

section Rules

variable (observer : ObserverToken)

def observerAllowsChannel (id name : Option String) (channelType : Option ℕ) : Bool :=
  if channelType.any (· != 0) then false
  else
    let filters := normalizeObserverFilters observer.filters
    let ids := filterList filters.channelIds
    let names := filterList filters.channelNames
    if ids.isNone && names.isNone then true
    else has ids id || has names name

def observerAllowsConversation (conversationId : Option String) : Bool :=
  let filters := normalizeObserverFilters observer.filters
  if !hasObserverScope observer .dmsRead then false
  else if filters.includeDms != some true then false
  else
    let ids := filterList filters.dmConversationIds
    if ids.isNone then true else has ids conversationId

def observerAllowsAgent (agentId : Option String) : Bool :=
  let ids := filterList (normalizeObserverFilters observer.filters).agentIds
  if ids.isNone then true else has ids agentId

variable (parseDate : String → Option ℤ)

/-- `observerAllowsCreatedAt`, for a time in its ISO form. -/
def observerAllowsCreatedAt (createdAt : Option String) : Bool :=
  match (normalizeObserverFilters observer.filters).createdAfter with
  | none => true
  | some cutoff =>
    match parseDate cutoff, createdAt.bind parseDate with
    | some cutoffMs, some createdMs => decide (cutoffMs ≤ createdMs)
    | _, _ => false

def observerAllowsMessage (agentId createdAt : Option String) : Bool :=
  observerAllowsAgent observer agentId && observerAllowsCreatedAt observer parseDate createdAt

/-- What the filters of a read look at, from the database. -/
structure MessageObserverResource where
  channelId : String
  channelName : String
  channelType : ℕ
  conversationId : Option String
  agentId : String
  createdAt : String

def observerAllowsMessageResource (resource : MessageObserverResource)
    (normalScope : Option ObserverScope) : Bool :=
  if !observerAllowsMessage observer parseDate resource.agentId resource.createdAt then false
  else if resource.channelType != 0 then
    observerAllowsConversation observer resource.conversationId
  else if normalScope.any (!hasObserverScope observer ·) then false
  else observerAllowsChannel observer resource.channelId resource.channelName resource.channelType

end Rules

/-! ## Access to a conversation -/

/-- The token may read the direct messages of the conversation. -/
structure DmAccess (observer : ObserverToken) (conversationId : String) : Prop where
  scope : .dmsRead ∈ publicScopes observer.scopes
  included : observer.filters.includeDms = some true
  listed : ∀ ids, observer.filters.dmConversationIds = some ids → ids ≠ [] →
    conversationId ∈ ids

variable {observer : ObserverToken}

/-- A filter that is in force keeps the listed values. -/
lemma has_distinct {values : Option (List String)} {v : String}
    (h : has (filterList (distinct values)) (some v) = true) :
    ∃ ids, values = some ids ∧ v ∈ ids := by
  match values with
  | none | some [] => simp [distinct, filterList, has] at h
  | some (w :: ws) =>
    refine ⟨w :: ws, rfl, ?_⟩
    have hmem : v ∈ (w :: ws).eraseDups := by
      by_cases he : (w :: ws).eraseDups.isEmpty <;>
        simp_all [distinct, filterList, has, Option.filter]
    simpa using hmem

/-- Without a conversation to ask for, the check still wants the scope and the direct messages. -/
lemma dms_of_allows {conversationId : Option String}
    (h : observerAllowsConversation observer conversationId = true) :
    hasObserverScope observer .dmsRead = true ∧ observer.filters.includeDms = some true := by
  unfold observerAllowsConversation at h
  have hscope : hasObserverScope observer .dmsRead = true := by
    by_contra hno
    simp [hno] at h
  refine ⟨hscope, ?_⟩
  by_contra hno
  simp [hscope, normalizeObserverFilters, hno] at h

/-- The check a conversation passes is access to it. -/
lemma dmAccess_of_allows {conversationId : String}
    (h : observerAllowsConversation observer (some conversationId) = true) :
    DmAccess observer conversationId := by
  obtain ⟨hscope, hincluded⟩ := dms_of_allows h
  refine ⟨by simpa [hasObserverScope] using hscope, hincluded, ?_⟩
  intro ids hids hne
  have hlist : (filterList (distinct observer.filters.dmConversationIds)).isNone = false := by
    rw [hids]
    cases ids with
    | nil => exact absurd rfl hne
    | cons w ws => simp [distinct, filterList, Option.filter, List.eraseDups_cons]
  simp only [observerAllowsConversation, normalizeObserverFilters, hscope, hincluded, hlist] at h
  obtain ⟨ids', hids', hmem⟩ := has_distinct h
  rw [hids] at hids'
  obtain rfl := Option.some.inj hids'
  exact hmem

/-- **What the REST side asks of a direct message.** -/
theorem dmAccess_of_allowsResource {parseDate : String → Option ℤ}
    {normalScope : Option ObserverScope}
    {resource : MessageObserverResource} {conversationId : String}
    (hdm : resource.channelType ≠ 0) (hconv : resource.conversationId = some conversationId)
    (h : observerAllowsMessageResource observer parseDate resource normalScope = true) :
    DmAccess observer conversationId := by
  unfold observerAllowsMessageResource at h
  split at h
  · simp at h
  · rw [if_pos (by simpa using hdm), hconv] at h
    exact dmAccess_of_allows h

end Observer
