import Mathlib.Data.List.Basic

/-!
# Tags of a node

A node carries tags of three kinds.  `cloud:` tags are the lifecycle identity the control plane
gives it at enrollment, and no registration may set or shed one; `repo:` tags say which
repositories it serves, and come from the structured `repo_keys` of a registration wherever it
carries them; the rest round-trips.

A broker's registration computes the tags it leaves inside the `UPDATE`, from the row as it is; a
direct node's registration computes them from a row it has read before.  What either leaves is
given here as a function of those tags.
-/

namespace Enrollment

abbrev Tag := String

/-- `value.startsWith(start)`. -/
def startsWith (value start : String) : Bool := start.toList.isPrefixOf value.toList

/-- `REPO_TAG_PREFIX`. -/
def repoTagPrefix : String := "repo:"

/-- `SERVER_OWNED_NODE_TAG_PREFIX`. -/
def serverOwnedNodeTagPrefix : String := "cloud:"

def isRepoTag (tag : Tag) : Bool := startsWith tag repoTagPrefix

def isServerOwnedTag (tag : Tag) : Bool := startsWith tag serverOwnedNodeTagPrefix

/-- The tag that advertises a repository. -/
def repoTag (repoKey : String) : Tag := repoTagPrefix ++ repoKey

/-- What a `node.register` frame says of the node; the manifest and the capacity go to its
provider. -/
structure RegisterMessage where
  name : String
  machineId : Option String
  tags : List Tag
  repoKeys : Option (List String)
  deriving DecidableEq

/-- `registrationTags`: the caller's own tags, and the repositories it advertises. -/
def registrationTags (message : RegisterMessage) : List Tag :=
  let callerTags := message.tags.filter fun tag => !isServerOwnedTag tag
  match message.repoKeys with
  | none => callerTags.eraseDups
  | some repoKeys =>
    ((callerTags.filter fun tag => !isRepoTag tag) ++ repoKeys.map repoTag).eraseDups

/-- `brokerTagsPreservingServerOwned`: the server-owned tags of the row, then the caller's. -/
def brokerTagsPreservingServerOwned (current callerTags : List Tag) : List Tag :=
  current.filter isServerOwnedTag ++ callerTags

/-- `directTags`: what a direct node keeps of the tags that were read, then the caller's. -/
def directTags (existing callerTags : List Tag) : List Tag :=
  ((existing.filter fun tag => !isRepoTag tag) ++ callerTags).eraseDups

/-- The two lists have the same server-owned tags. -/
def SameServerOwned (tags tags' : List Tag) : Prop :=
  ∀ tag, isServerOwnedTag tag = true → (tag ∈ tags ↔ tag ∈ tags')

instance (tags tags' : List Tag) : Decidable (SameServerOwned tags tags') :=
  decidable_of_iff
    ((∀ tag ∈ tags, isServerOwnedTag tag = true → tag ∈ tags') ∧
      ∀ tag ∈ tags', isServerOwnedTag tag = true → tag ∈ tags)
    ⟨fun h tag htag => ⟨fun hmem => h.1 tag hmem htag, fun hmem => h.2 tag hmem htag⟩,
      fun h => ⟨fun tag hmem htag => (h tag htag).1 hmem, fun tag hmem htag => (h tag htag).2 hmem⟩⟩

/-- The `repo:` tags of the list are those of the keys. -/
def AdvertisesExactly (repoKeys : List String) (tags : List Tag) : Prop :=
  ∀ tag, isRepoTag tag = true → (tag ∈ tags ↔ tag ∈ repoKeys.map repoTag)

lemma SameServerOwned.refl (tags : List Tag) : SameServerOwned tags tags := fun _ _ => Iff.rfl

lemma SameServerOwned.symm {tags tags' : List Tag} (h : SameServerOwned tags tags') :
    SameServerOwned tags' tags := fun tag htag => (h tag htag).symm

lemma SameServerOwned.trans {tags₁ tags₂ tags₃ : List Tag} (h : SameServerOwned tags₁ tags₂)
    (h' : SameServerOwned tags₂ tags₃) : SameServerOwned tags₁ tags₃ :=
  fun tag htag => (h tag htag).trans (h' tag htag)

/-! ## The two prefixes -/

lemma startsWith_append (start rest : String) : startsWith (start ++ rest) start = true := by
  rw [startsWith, List.isPrefixOf_iff_prefix, String.toList_append]
  exact List.prefix_append _ _

@[simp] lemma isRepoTag_repoTag (repoKey : String) : isRepoTag (repoTag repoKey) = true :=
  startsWith_append _ _

/-- No tag is both server-owned and an advertisement. -/
lemma isRepoTag_eq_false {tag : Tag} (h : isServerOwnedTag tag = true) :
    isRepoTag tag = false := by
  unfold isServerOwnedTag startsWith at h
  unfold isRepoTag startsWith
  cases htag : tag.toList with
  | nil => rfl
  | cons c cs =>
    rw [htag] at h
    have hc : c = 'c' := by
      obtain ⟨rest, hrest⟩ := List.isPrefixOf_iff_prefix.mp h
      exact ((List.cons.inj hrest).1).symm
    subst hc
    rfl

/-! ## What the registrations leave -/

lemma notMem_registrationTags (message : RegisterMessage) {tag : Tag}
    (h : isServerOwnedTag tag = true) : tag ∉ registrationTags message := by
  have hrepo := isRepoTag_eq_false h
  unfold registrationTags
  cases message.repoKeys with
  | none => simp [List.mem_eraseDups, h]
  | some repoKeys =>
    simp only [List.mem_eraseDups, List.mem_append, List.mem_filter, List.mem_map, h]
    rintro (⟨⟨-, hfalse⟩, -⟩ | ⟨repoKey, -, rfl⟩)
    · simp at hfalse
    · simp at hrepo

/-- A broker's registration keeps the server-owned tags of the row. -/
lemma brokerTags_sameServerOwned (current : List Tag) (message : RegisterMessage) :
    SameServerOwned (brokerTagsPreservingServerOwned current (registrationTags message))
      current := by
  intro tag h
  have hcaller := notMem_registrationTags message h
  simp [brokerTagsPreservingServerOwned, hcaller, h]

/-- A direct node's registration keeps the server-owned tags that were read. -/
lemma directTags_sameServerOwned (existing : List Tag) (message : RegisterMessage) :
    SameServerOwned (directTags existing (registrationTags message)) existing := by
  intro tag h
  have hcaller := notMem_registrationTags message h
  have hrepo := isRepoTag_eq_false h
  simp [directTags, List.mem_eraseDups, hcaller, hrepo]

lemma mem_registrationTags_repo {message : RegisterMessage} {repoKeys : List String}
    (hkeys : message.repoKeys = some repoKeys) {tag : Tag} (h : isRepoTag tag = true) :
    tag ∈ registrationTags message ↔ tag ∈ repoKeys.map repoTag := by
  simp [registrationTags, hkeys, List.mem_eraseDups, h]

lemma isServerOwnedTag_eq_false {tag : Tag} (h : isRepoTag tag = true) :
    isServerOwnedTag tag = false := by
  by_contra hne
  have hrepo := isRepoTag_eq_false (by simpa using hne)
  simp [h] at hrepo

/-- A broker's registration with `repo_keys` leaves their advertisements and no other. -/
lemma brokerTags_advertises (current : List Tag) {message : RegisterMessage}
    {repoKeys : List String} (hkeys : message.repoKeys = some repoKeys) :
    AdvertisesExactly repoKeys
      (brokerTagsPreservingServerOwned current (registrationTags message)) := by
  intro tag h
  have hserver := isServerOwnedTag_eq_false h
  rw [← mem_registrationTags_repo hkeys h]
  simp [brokerTagsPreservingServerOwned, hserver]

/-- A direct node's registration with `repo_keys` leaves their advertisements and no other. -/
lemma directTags_advertises (existing : List Tag) {message : RegisterMessage}
    {repoKeys : List String} (hkeys : message.repoKeys = some repoKeys) :
    AdvertisesExactly repoKeys (directTags existing (registrationTags message)) := by
  intro tag h
  rw [← mem_registrationTags_repo hkeys h]
  simp [directTags, List.mem_eraseDups, h]

end Enrollment
