import Relaycast.Enrollment.Statements
import Relaycast.Interleaving.Safety

/-!
# Who owns the `cloud:` tags

Only an enrollment sets or clears the `cloud:` tags of a node.  Enrollment does not take the lock
registrations take, so a registration may have read its row before an enrollment and write it
after.  A broker's registration is one statement that computes the tags from the row it finds.  A
direct node's registration computes them from the row it has read, and an enrollment without tags
writes back the tags it has read: either puts a stale set back when an enrollment came in between.

So the law holds in the runs in which each of these two writes finds the server-owned tags it has
read (`freshTags`), and `serverOwned_stale` is a run of the other kind.
-/

namespace Enrollment

open Relational Interleaving

/-! ## What enrollments and registrations have set -/

/-- The tags an enrollment sets; a rotation whose request carries none sets none. -/
def Stmt.setsTags : Stmt → Option (List Tag)
  | .rotate e _ => e.data.tags
  | .insert e => some (e.data.tags.getD [])
  | _ => none

/-- What a statement that is an enrollment or a registration advertises: the keys of a registration
that carries them. -/
def Stmt.advertises : Stmt → Option (Option (List String))
  | .rotate .. | .insert _ => some none
  | .registerDirect _ message _ | .registerBroker _ message => some message.repoKeys
  | _ => none

/-- The tags set by the last committed enrollment of a node that set tags. -/
def lastEnrolled (id : NodeId) : List (Event lang Store) → Option (List Tag)
  | [] => none
  | e :: es =>
    if e.stmt.wrote e.reply id then e.stmt.setsTags.or (lastEnrolled id es) else lastEnrolled id es

/-- The `repo_keys` of the last committed registration of a node, if it carried them and no
enrollment came after it. -/
def lastAdvertised (id : NodeId) : List (Event lang Store) → Option (List String)
  | [] => none
  | e :: es =>
    if e.stmt.wrote e.reply id then e.stmt.advertises.getD (lastAdvertised id es)
    else lastAdvertised id es

/-- Tags that are as the last enrollment and the last registration have set them. -/
structure TagsHeld (enrolled : Option (List Tag)) (repoKeys : Option (List String))
    (tags : List Tag) : Prop where
  serverOwned : ∀ tags', enrolled = some tags' → SameServerOwned tags tags'
  advertised : ∀ keys, repoKeys = some keys → AdvertisesExactly keys tags

/-- The runs in which a direct node's registration, and a rotation whose request carries no tags,
find the server-owned tags they have read. -/
def freshTags : Regime lang Store Call where
  calls _ := True
  permits w _ q :=
    match q with
    | .rotate e existing => e.data.tags = none →
        ∀ r ∈ w.store.nodes, r.id = existing.id → SameServerOwned existing.tags r.tags
    | .registerDirect existing _ _ =>
        ∀ r ∈ w.store.nodes, r.id = existing.id → SameServerOwned existing.tags r.tags
    | _ => True
  crashes := True

/-! ## One statement -/

/-- The tags that an enrollment has just set. -/
lemma TagsHeld.enrolled {enrolled : Option (List Tag)} {tags : List Tag}
    (h : ∀ tags', enrolled = some tags' → SameServerOwned tags tags') : TagsHeld enrolled none tags where
  serverOwned := h
  advertised keys hkeys := by simp at hkeys

/-- An update that leaves the server-owned tags alone, and advertises what it says. -/
lemma TagsHeld.registered {enrolled : Option (List Tag)} {repoKeys : Option (List String)}
    {tags tags' : List Tag} {message : RegisterMessage} (h : TagsHeld enrolled repoKeys tags)
    (hserver : SameServerOwned tags' tags)
    (hrepo : ∀ keys, message.repoKeys = some keys → AdvertisesExactly keys tags') :
    TagsHeld enrolled message.repoKeys tags' where
  serverOwned tags'' henrolled := hserver.trans (h.serverOwned tags'' henrolled)
  advertised := hrepo

variable {C : Crypto} {authority : Bool} {w : World lang Store} {i : ℕ} {q : Stmt} {a : q.Answer}
  {enrolled : Option (List Tag)} {repoKeys : Option (List String)} {r : NodeRow}

/-- **What an update leaves of the tags of its row.** -/
lemma TagsHeld.update (hperm : freshTags.permits w i q) {p : NodeRow → Bool}
    {f : NodeRow → NodeRow} (hupdate : q.update authority a = some (p, f)) (hr : r ∈ w.store.nodes)
    (hp : p r = true) (h : TagsHeld enrolled repoKeys r.tags) :
    TagsHeld (q.setsTags.or enrolled) (q.advertises.getD repoKeys) (f r).tags := by
  have htarget := Stmt.update_target hupdate hp
  cases q with
  | rotate e existing =>
    obtain ⟨rfl, rfl⟩ := Prod.mk.inj (Option.some.inj hupdate)
    refine .enrolled fun tags' hset => ?_
    rw [nodesAdvanceLivenessRevision_tags]
    simp only [Stmt.setsTags] at hset
    simp only [Attempt.rotated]
    cases htags : e.data.tags with
    | some tags =>
      rw [htags, Option.some_or] at hset
      obtain rfl := Option.some.inj hset
      exact .refl _
    | none =>
      rw [htags, Option.none_or] at hset
      have hstale := hperm htags r hr (Option.some.inj htarget).symm
      exact hstale.trans (h.serverOwned tags' hset)
  | registerDirect existing message now =>
    obtain ⟨rfl, rfl⟩ := Prod.mk.inj (Option.some.inj hupdate)
    rw [nodesAdvanceLivenessRevision_tags]
    have hread := hperm r hr (Option.some.inj htarget).symm
    refine h.registered ?_ fun keys hkeys => directTags_advertises existing.tags hkeys
    exact (directTags_sameServerOwned existing.tags message).trans hread
  | registerBroker id message =>
    obtain ⟨rfl, rfl⟩ := Prod.mk.inj (Option.some.inj hupdate)
    exact h.registered (brokerTags_sameServerOwned r.tags message)
      fun keys hkeys => brokerTags_advertises r.tags hkeys
  | refreshAggregate | heartbeatDirect | markOffline =>
    obtain ⟨rfl, rfl⟩ := Prod.mk.inj (Option.some.inj hupdate)
    rw [nodesAdvanceLivenessRevision_tags]
    exact h
  | _ => simp [Stmt.update] at hupdate

/-- What an insert leaves of the tags of its row. -/
lemma TagsHeld.insert (hinserts : q.inserts a = some r) :
    TagsHeld (q.setsTags.or enrolled) (q.advertises.getD repoKeys) r.tags := by
  cases q with
  | insert e =>
    obtain rfl := Option.some.inj hinserts
    refine .enrolled fun tags' hset => ?_
    obtain rfl := Option.some.inj hset
    exact .refl _
  | _ => simp [Stmt.inserts] at hinserts

/-! ## Every run -/

/-- Every node's tags are as the last enrollment and the last registration have set them. -/
def TagsInv (w : World lang Store) : Prop :=
  ∀ r ∈ w.store.nodes, TagsHeld (lastEnrolled r.id w.trace) (lastAdvertised r.id w.trace) r.tags

lemma lastEnrolled_after (id : NodeId) :
    lastEnrolled id (w.after (machine C authority) i q a).trace =
      if q.wrote (run C authority q a w.store).1 id then q.setsTags.or (lastEnrolled id w.trace)
      else lastEnrolled id w.trace := rfl

lemma lastAdvertised_after (id : NodeId) :
    lastAdvertised id (w.after (machine C authority) i q a).trace =
      if q.wrote (run C authority q a w.store).1 id then
        q.advertises.getD (lastAdvertised id w.trace)
      else lastAdvertised id w.trace := rfl

lemma tagsInv_after (hw : TagsInv w) (hperm : freshTags.permits w i q) :
    TagsInv (w.after (machine C authority) i q a) := by
  intro r' hr'
  rw [lastEnrolled_after, lastAdvertised_after]
  rcases mem_run hr' with ⟨hwrote, hold⟩ |
    ⟨⟨row, hrow, hid, -⟩, ⟨r, hr, p, f, hupdate, hp, rfl⟩ | ⟨hins, -⟩⟩
  · simp only [hwrote, Bool.false_eq_true, if_false]
    exact hw r' hold
  · have hwrote := Stmt.wrote_of_written hrow hid
    rw [if_pos hwrote, if_pos hwrote, Stmt.update_id hupdate]
    exact (hw r hr).update hperm hupdate hr hp
  · have hwrote := Stmt.wrote_of_written hrow hid
    rw [if_pos hwrote, if_pos hwrote]
    exact .insert hins

/-- **Server-owned tags.**  In every run in which no registration of a direct node and no rotation
without tags writes over server-owned tags it has not read, every node has the `cloud:` tags of the
last committed enrollment that set tags, and the `repo:` tags of the last registration with
`repo_keys` until the next registration or enrollment. -/
theorem serverOwned_held (C : Crypto) (authority : Bool) {g : Config lang Store Call.Result}
    (h : (service C authority fun _ => True).Reachable freshTags g) {r : NodeRow}
    (hr : r ∈ g.world.store.nodes) :
    TagsHeld (lastEnrolled r.id g.world.trace) (lastAdvertised r.id g.world.trace) r.tags := by
  have hinv : TagsInv g.world := by
    refine System.invariant_of_statements (P := fun _ => True) ?_ ?_ ?_ ?_ h
    · intro s _ r _
      exact ⟨fun tags' htags => by simp [lastEnrolled] at htags,
        fun keys hkeys => by simp [lastAdvertised] at hkeys⟩
    · exact fun _ _ hw => hw
    · exact fun c _ => Prog.issues_true _
    · exact fun w i q _ hw hperm a => tagsInv_after hw hperm
  exact hinv r hr

/-- A check of `freshTags`. -/
def freshTagsOk (w : World lang Store) : Stmt → Bool
  | .rotate e existing => e.data.tags.isSome || w.store.nodes.rows.all fun r =>
      r.id != existing.id || decide (SameServerOwned existing.tags r.tags)
  | .registerDirect existing _ _ => w.store.nodes.rows.all fun r =>
      r.id != existing.id || decide (SameServerOwned existing.tags r.tags)
  | _ => true

lemma freshTags_permits (w : World lang Store) (i : ℕ) (q : Stmt) (h : freshTagsOk w q = true) :
    freshTags.permits w i q := by
  cases q with
  | rotate e existing =>
    intro htags r hr hid
    simp only [freshTagsOk, htags, Option.isSome_none, Bool.false_or, List.all_eq_true] at h
    simpa [hid] using h r hr
  | registerDirect existing message now =>
    intro r hr hid
    simp only [freshTagsOk, List.all_eq_true] at h
    simpa [hid] using h r hr
  | _ => trivial

/-! ## A direct node that is enrolled and registered -/

abbrev plainService := service plainCrypto false fun _ => True

/-- A host that enrolls a direct node under a name, with tags and perhaps the token it holds. -/
def enrollDirect (currentNodeToken : Option Token) (tags : List Tag) : Call :=
  .enrollNode ⟨none, "box", none, none, some .direct, none, some tags⟩ currentNodeToken none false

/-- The node registers, with a `cloud:` tag of its own and a repository. -/
def registerBox : Call :=
  .registerNode "node" ⟨"box", none, ["cloud:forged"], some ["acme/site"]⟩

def noNodes : Store := ⟨.empty, 1000000, 0⟩

def enrolledAndRegistered : List plainService.Move :=
  .start (enrollDirect none ["cloud:a"]) :: List.replicate 4 (.exec 0 (answers "node")) ++
    .start registerBox :: List.replicate 4 (.exec 1 (answers "node"))

def registered : Config lang Store Call.Result := plainService.runFrom noNodes enrolledAndRegistered

/-- The tags of every node, and what the law says of them. -/
def tagTable (g : Config lang Store Call.Result) :
    List (List Tag × Option (List Tag) × Option (List String)) :=
  g.world.store.nodes.rows.map fun r =>
    (r.tags, lastEnrolled r.id g.world.trace, lastAdvertised r.id g.world.trace)

lemma mem_of_tagTable {g : Config lang Store Call.Result} {tags : List Tag}
    {enrolled : Option (List Tag)} {repoKeys : Option (List String)}
    (h : tagTable g = [(tags, enrolled, repoKeys)]) :
    ∃ r ∈ g.world.store.nodes, r.tags = tags ∧ lastEnrolled r.id g.world.trace = enrolled ∧
      lastAdvertised r.id g.world.trace = repoKeys := by
  have hmem : (tags, enrolled, repoKeys) ∈ tagTable g := by
    rw [h]
    exact List.mem_singleton_self _
  obtain ⟨r, hr, hrow⟩ := List.mem_map.mp hmem
  exact ⟨r, hr, by simpa using hrow⟩

theorem serverOwned_held_registered : ∃ r ∈ registered.world.store.nodes,
    r.tags = ["cloud:a", "repo:acme/site"] ∧
      TagsHeld (some ["cloud:a"]) (some ["acme/site"]) r.tags := by
  have hreach : plainService.Reachable freshTags registered := by
    refine System.runFrom_reachable_of _ _ trivial ?_
    refine System.allowsAll_of_passes _ freshTags_permits (fun _ _ => trivial) ?_
    decide +kernel
  have htable : tagTable registered =
      [(["cloud:a", "repo:acme/site"], some ["cloud:a"], some ["acme/site"])] := by
    decide +kernel
  obtain ⟨r, hr, htags, henrolled, hadvertised⟩ := mem_of_tagTable htable
  have h := serverOwned_held plainCrypto false hreach hr
  rw [henrolled, hadvertised] at h
  exact ⟨r, hr, htags, h⟩

/-- The registration has read the row when the node is enrolled again with other tags. -/
def enrolledMeanwhile : List plainService.Move :=
  .start (enrollDirect none ["cloud:a"]) :: List.replicate 4 (.exec 0 (answers "node")) ++
    .start registerBox :: List.replicate 3 (.exec 1 (answers "node")) ++
    .start (enrollDirect (some "n") ["cloud:b"]) :: List.replicate 4 (.exec 2 (answers "node")) ++
    [.exec 1 (answers "node")]

def registeredStale : Config lang Store Call.Result :=
  plainService.runFrom noNodes enrolledMeanwhile

/-- The registration puts the stale `cloud:` tag back over the one the last enrollment set. -/
theorem serverOwned_stale :
    plainService.Reachable (Regime.free lang Store Call) registeredStale ∧
      ∃ r ∈ registeredStale.world.store.nodes,
        lastEnrolled r.id registeredStale.world.trace = some ["cloud:b"] ∧
          r.tags = ["cloud:a", "repo:acme/site"] ∧ ¬ SameServerOwned r.tags ["cloud:b"] := by
  have htable : tagTable registeredStale =
      [(["cloud:a", "repo:acme/site"], some ["cloud:b"], some ["acme/site"])] := by
    decide +kernel
  obtain ⟨r, hr, htags, henrolled, -⟩ := mem_of_tagTable htable
  have hstale : ¬ SameServerOwned ["cloud:a", "repo:acme/site"] ["cloud:b"] := by decide +kernel
  exact ⟨plainService.runFrom_reachable trivial _, r, hr, henrolled, htags, htags ▸ hstale⟩

end Enrollment
