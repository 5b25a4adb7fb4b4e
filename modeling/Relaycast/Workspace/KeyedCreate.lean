import Relaycast.Workspace.Creating

/-!
# One workspace per idempotency key

Whatever the creates under one key and the deletes do, crash or lose, the batch of the key commits
at most once.  Every create that returns under the key returns the workspace of that batch and its
key, and at most one of them says that it created it.  Once the binding is terminalized, a create
that starts afterwards neither returns nor creates.

A create for another request under the key never returns.  What it is told depends on what it gets
to see: the conflict, if a lookup of it is answered with the binding, and otherwise whatever has
failed, as when its batches fail until its attempts are used up.
-/

namespace Workspace

open Relational Interleaving

variable {C : Crypto} {key : BindingKey} {k : KeyedCreate}

/-! ## The runs -/

/-- The create carries the key. -/
def Carries (C : Crypto) (key : BindingKey) (name : String) (options : CreateOptions)
    (k : KeyedCreate) : Prop :=
  ∃ request, options.checked C name = .ok request ∧ request.keyed = some k ∧ k.key = key

/-- Creates that carry the key, and deletes of any workspace. -/
def keyedCreates (C : Crypto) (key : BindingKey) : Regime lang Store Call where
  calls
    | .createWorkspace _ name options => ∀ request, options.checked C name = .ok request →
        ∃ k, request.keyed = some k ∧ k.key = key
    | _ => True
  permits _ _ _ := True
  crashes := True

/-- Nothing is bound to the key yet, and no channel stands under an id still to be generated. -/
structure Unclaimed (C : Crypto) (key : BindingKey) (s : Store) : Prop where
  unbound : ∀ b ∈ s.bindings, b.key ≠ key
  fresh : ∀ r ∈ s.channels, ∀ n, s.generated ≤ n → r.id ≠ C.generateId n

/-- The workspaces under a key that nothing is bound to yet. -/
abbrev keyedService (C : Crypto) (key : BindingKey) : System lang Store Call Call.Result :=
  service C (Unclaimed C key)

lemma keyInv_init {s : Store} (h : Unclaimed C key s) : KeyInv C key ⟨s, []⟩ where
  bound b hb hkey := absurd hkey (h.unbound b hb)
  kept e he := by simp [creations] at he
  once := Nat.zero_le _
  stored e he := by simp [creations] at he
  fresh := h.fresh
  given e he := by simp at he
  issuer e he := by simp at he
  owned e he := by simp at he

/-- What each call promises. -/
def Call.Promises (C : Crypto) (key : BindingKey) (i : ℕ) :
    (c : Call) → c.Result → World lang Store → Prop
  | .createWorkspace _ name options, outcome, w =>
    ∀ k, Carries C key name options k → Delivers C k i outcome w
  | .deleteWorkspace .., _, _ => True
  | .reapWorkspace .., _, _ => True

lemma of_createsNothing {α : Type} {p : Prog lang α} (hp : CreatesNothing p) (i : ℕ)
    (w : World lang Store) : KeySafe C key i (fun _ _ => True) p w :=
  Shared.Safe.of_issues hp
    (fun _ _ hq hinv _ a => ⟨keyInv_after hinv (allowed_of_isCreate hq) a,
      List.subset_cons_self _ _⟩) w

lemma call_keeps (c : Call) (hc : (keyedCreates C key).calls c) (i : ℕ) (w : World lang Store)
    (hnew : w.eventsOf i = []) : KeySafe C key i (c.Promises C key i) (c.body C) w := by
  cases c with
  | deleteWorkspace deletable id => exact of_createsNothing (deleteWorkspace_issues deletable id) i w
  | reapWorkspace deletable id pages =>
    exact of_createsNothing (reapWorkspace_issues deletable id pages) i w
  | createWorkspace d name options =>
    cases hchecked : options.checked C name with
    | error f =>
      have hthrow : (createWorkspace C d name options).run = Prog.done (.error f) := by
        unfold createWorkspace
        rw [hchecked]
        rfl
      show KeySafe _ _ _ _ (createWorkspace C d name options).run _
      rw [hthrow]
      rintro k ⟨request, hrequest, -⟩
      rw [hchecked] at hrequest
      cases hrequest
    | ok request =>
      obtain ⟨k, hkeyed, rfl⟩ := hc request hchecked
      refine Shared.Safe.weaken (createWorkspace_delivers d hchecked hkeyed hnew) ?_
      rintro outcome w' hdelivers k' ⟨request', hrequest', hkeyed', -⟩
      obtain rfl : request = request' := Except.ok.inj (hchecked.symm.trans hrequest')
      obtain rfl : k = k' := Option.some.inj (hkeyed.symm.trans hkeyed')
      exact hdelivers

/-- Call `i` is a create that carries the key for `k`, and has come to `outcome`. -/
def CameTo (C : Crypto) (key : BindingKey) (g : Config lang Store Call.Result) (i : ℕ)
    (k : KeyedCreate) (outcome : Except Failure Created) : Prop :=
  ∃ d name options, Carries C key name options k ∧
    g.threads[i]? = some ⟨.createWorkspace d name options, some (Prog.done outcome)⟩

lemma CameTo.carried {g : Config lang Store Call.Result} {i : ℕ} {outcome : Except Failure Created}
    (h : CameTo C key g i k outcome) : k.key = key := by
  obtain ⟨d, name, options, ⟨request, -, -, hkey⟩, -⟩ := h
  exact hkey

/-- The invariant in every run, and what every create has come to. -/
lemma keyInv_of_reachable {g : Config lang Store Call.Result}
    (h : (keyedService C key).Reachable (keyedCreates C key) g) :
    KeyInv C key g.world ∧ ∀ i k outcome, CameTo C key g i k outcome →
      Delivers C k i outcome g.world := by
  obtain ⟨hinv, hreturned⟩ := Shared.sound (S := keyedService C key) (H := shared C key)
    (Q := fun c i => c.Promises C key i) (fun s hs => keyInv_init hs) (fun _ _ hw => hw)
    (fun _ _ => List.Subset.refl _) (fun c hc i w hnew _ => call_keeps c hc i w hnew) h
  refine ⟨hinv, ?_⟩
  rintro i k outcome ⟨d, name, options, hcarries, hi⟩
  obtain ⟨w₀, hown, htrace, hpromises⟩ := hreturned i (.createWorkspace d name options) outcome hi
  obtain ⟨request, hchecked, hkeyed, rfl⟩ := hcarries
  have hdelivers := hpromises k ⟨request, hchecked, hkeyed, rfl⟩
  cases outcome with
  | ok r =>
    obtain ⟨⟨e, he, hcreation⟩, hcreated, hlive⟩ := hdelivers
    refine ⟨⟨e, mem_creations_of_subset he htrace, hcreation⟩, fun hr => ?_, hown ▸ hlive⟩
    obtain ⟨e', he', hcaller⟩ := hcreated hr
    exact ⟨e', mem_creations_of_subset he' htrace, hcaller⟩
  | error f =>
    show Fails k i f g.world
    rw [Fails, hown]
    exact hdelivers

/-! ## What comes later -/

/-- The bindings of `s` are still there, and stay terminalized. -/
def BindingsKept (s s' : Store) : Prop :=
  ∀ b ∈ s.bindings, ∃ b' ∈ s'.bindings, b'.key = b.key ∧ b'.requestDigest = b.requestDigest ∧
    b'.workspaceId = b.workspaceId ∧ (b.status = .terminalized → b'.status = .terminalized)

lemma BindingsKept.refl (s : Store) : BindingsKept s s := (Shrinks.refl s).binding

lemma BindingsKept.trans {s₁ s₂ s₃ : Store} (h : BindingsKept s₁ s₂) (h' : BindingsKept s₂ s₃) :
    BindingsKept s₁ s₃ := by
  intro b hb
  obtain ⟨b₂, hb₂, hkey₂, hdigest₂, hid₂, hstatus₂⟩ := h b hb
  obtain ⟨b₃, hb₃, hkey₃, hdigest₃, hid₃, hstatus₃⟩ := h' b₂ hb₂
  exact ⟨b₃, hb₃, hkey₃.trans hkey₂, hdigest₃.trans hdigest₂, hid₃.trans hid₂,
    fun hb => hstatus₃ (hstatus₂ hb)⟩

lemma BindingsKept.terminalized {s s' : Store} (h : BindingsKept s s')
    (hs : Terminalized key s) : Terminalized key s' := by
  obtain ⟨b, hb, hkey, hstatus⟩ := hs
  obtain ⟨b', hb', hkey', -, -, hstatus'⟩ := h b hb
  exact ⟨b', hb', hkey'.trans hkey, hstatus' hstatus⟩

lemma run_bindingsKept (q : Stmt) (a : q.Answer) (s : Store) :
    BindingsKept s (run C q a s).2 := by
  cases hadds : q.adds with
  | false => exact (run_shrinks hadds a s).binding
  | true =>
    cases q with
    | generateId => exact .refl s
    | create batch =>
      have hstore := runCreate_store batch a s
      intro b hb
      refine ⟨b, ?_, rfl, rfl, rfl, id⟩
      show b ∈ (runCreate batch a.1 a.2 s).2.bindings
      rw [hstore]
      split
      · exact (mem_create _ _ _).2.2.2 b hb
      · exact hb
    | _ => simp [Stmt.adds] at hadds

/-- What was executed after `w` was executed with the bindings of `w` still there. -/
structure LaterOn (w w' : World lang Store) : Prop where
  kept : BindingsKept w.store w'.store
  newer : ∃ newer, w'.trace = newer ++ w.trace ∧ ∀ e ∈ newer, BindingsKept w.store e.before

lemma laterOn_of_run {g g' : Config lang Store Call.Result}
    (h : (keyedService C key).Reachable (keyedCreates C key) g)
    (hrun : Relation.ReflTransGen ((keyedService C key).Step (keyedCreates C key)) g g') :
    LaterOn g.world g'.world := by
  refine System.stable_of_statements (S := keyedService C key) (P := fun _ => True)
    (R := LaterOn) (fun w => ⟨.refl _, [], rfl, by simp⟩) ?_ (fun _ w => ⟨.refl _, [], rfl, by simp⟩)
    (fun c _ => Prog.issues_true _) ?_ h hrun
  · rintro w₁ w₂ w₃ ⟨hkept, newer, htrace, hnewer⟩ ⟨hkept', newer', htrace', hnewer'⟩
    refine ⟨hkept.trans hkept', newer' ++ newer, by rw [htrace', htrace, List.append_assoc], ?_⟩
    intro e he
    rcases List.mem_append.mp he with he | he
    · exact hkept.trans (hnewer' e he)
    · exact hnewer e he
  · intro w i q _ _ a
    refine ⟨run_bindingsKept q a w.store, [_], rfl, fun e he => ?_⟩
    obtain rfl := List.mem_singleton.mp he
    exact .refl _

/-- What a call executes that is made after `g`. -/
lemma before_of_later {g g' : Config lang Store Call.Result}
    (h : (keyedService C key).Reachable (keyedCreates C key) g)
    (hlater : LaterOn g.world g'.world) {i : ℕ} (hi : g.threads.length ≤ i) :
    ∀ e ∈ g'.world.eventsOf i, BindingsKept g.world.store e.before := by
  obtain ⟨-, newer, htrace, hnewer⟩ := hlater
  intro e he
  obtain ⟨hmem, rfl⟩ := World.mem_eventsOf.mp he
  rw [htrace] at hmem
  rcases List.mem_append.mp hmem with hmem | hmem
  · exact hnewer e hmem
  · obtain ⟨t, ht, -⟩ := System.caller_of_event (S := keyedService C key) (P := fun _ _ => True)
      (fun c _ => Prog.issues_true _) h e hmem
    have hlt := (List.getElem?_eq_some_iff.mp ht).1
    omega

/-- A binding of the key is the one that is found. -/
lemma lookup_of_kept {s : Store} {b : BindingRow} (hb : b ∈ s.bindings) (hkey : b.key = key)
    {e : Event lang Store} (hkept : BindingsKept s e.before) {found : Option BindingRow}
    (he : lookup e = some (key, found)) :
    ∃ b', found = some b' ∧ b'.requestDigest = b.requestDigest := by
  obtain ⟨b', hb', hkey', hdigest', -, -⟩ := hkept b hb
  have hfound : e.before.binding? key = found := by
    obtain ⟨caller, q, a, reply, before, after⟩ := e
    cases q with
    | binding key' =>
      change Option StorageError at a
      cases a with
      | some cause => cases he
      | none =>
        obtain ⟨rfl, hfound⟩ := Prod.mk.inj (Option.some.inj he)
        exact hfound
    | _ => cases he
  cases hfind : e.before.binding? key with
  | none =>
    have hnone := List.find?_eq_none.mp hfind b' hb'
    simp [hkey', hkey] at hnone
  | some b'' =>
    have hkey'' : b''.key = key := by simpa using List.find?_some hfind
    obtain rfl : b'' = b' := Table.eq_of_clash (List.mem_of_find?_eq_some hfind) hb'
      (by simp [clash, Keyed.key, hkey'', hkey', hkey])
    exact ⟨b'', hfound.symm.trans hfind, hdigest'⟩

/-! ## The main result -/

/-- What holds of a key after a run. -/
structure CreatedOnce (C : Crypto) (key : BindingKey) (g : Config lang Store Call.Result) :
    Prop where
  /-- One batch has written a workspace, its channel and the binding. -/
  once : (creations key g.world.trace).length ≤ 1
  /-- Who returns, returns the workspace that was created for the request, and its key. -/
  returned : ∀ i k r, CameTo C key g i k (.ok r) →
    ∃ e ∈ creations key g.world.trace, ∃ batch, committedBatch e = some batch ∧
      batch.binding = some (key, k.requestDigest) ∧ r.workspaceId = batch.workspaceId ∧
        ∃ apiKey, r.apiKey = some apiKey ∧ C.sha256Hex apiKey = batch.apiKeyHash
  /-- One create says that it created it. -/
  created : ∀ i k r i' k' r', CameTo C key g i k (.ok r) → r.created = true →
    CameTo C key g i' k' (.ok r') → r'.created = true → i = i'
  /-- Who is not told of the conflict has not looked another request's binding up. -/
  conflict : ∀ i k f, CameTo C key g i k (.error f) → f ≠ reusedKey →
    Undisputed k (g.world.eventsOf i)

/-- What holds of the creates that are made after `g`. -/
structure SettledSince (C : Crypto) (key : BindingKey) (g g' : Config lang Store Call.Result) :
    Prop where
  /-- Once terminalized, the key neither creates nor returns. -/
  terminalized : Terminalized key g.world.store →
    creations key g'.world.trace = creations key g.world.trace ∧
      ∀ i k r, g.threads.length ≤ i → ¬CameTo C key g' i k (.ok r)
  /-- Once bound, the key refuses other requests. -/
  conflict : ∀ b ∈ g.world.store.bindings, b.key = key → ∀ i k outcome, g.threads.length ≤ i →
    CameTo C key g' i k outcome → k.requestDigest ≠ b.requestDigest →
      outcome = .error reusedKey ∨ ∃ cause, outcome = .error (.storage cause)

lemma eq_of_mem_creations {trace : List (Event lang Store)}
    (h : (creations key trace).length ≤ 1) {e e' : Event lang Store}
    (he : e ∈ creations key trace) (he' : e' ∈ creations key trace) : e = e' := by
  generalize creations key trace = es at h he he'
  rcases es with _ | ⟨e₀, _ | ⟨e₁, es⟩⟩
  · simp at he
  · exact (List.mem_singleton.mp he).trans (List.mem_singleton.mp he').symm
  · simp at h

lemma createdOnce_of_reachable {g : Config lang Store Call.Result}
    (h : (keyedService C key).Reachable (keyedCreates C key) g) : CreatedOnce C key g := by
  obtain ⟨hinv, hdelivers⟩ := keyInv_of_reachable h
  have hreturns : ∀ i k r, CameTo C key g i k (.ok r) → Returns C k i r g.world :=
    fun i k r hi => hdelivers i k (.ok r) hi
  constructor
  case once => exact hinv.once
  case returned =>
    intro i k r hi
    obtain rfl := hi.carried
    exact (hreturns i k r hi).creation
  case created =>
    intro i k r i' k' r' hi hr hi' hr'
    obtain ⟨e, he, hcaller⟩ := (hreturns i k r hi).created hr
    obtain ⟨e', he', hcaller'⟩ := (hreturns i' k' r' hi').created hr'
    rw [hi.carried] at he
    rw [hi'.carried] at he'
    rw [← hcaller, ← hcaller', eq_of_mem_creations hinv.once he he']
  case conflict =>
    intro i k f hi hf
    have hfails : Fails k i f g.world := hdelivers i k (.error f) hi
    rcases hfails with rfl | ⟨hundisputed, -⟩
    · exact absurd rfl hf
    · exact hundisputed

lemma settledSince_of_run {g g' : Config lang Store Call.Result}
    (h : (keyedService C key).Reachable (keyedCreates C key) g)
    (hrun : Relation.ReflTransGen ((keyedService C key).Step (keyedCreates C key)) g g') :
    SettledSince C key g g' := by
  have hreach : (keyedService C key).Reachable (keyedCreates C key) g' := by
    obtain ⟨s, hs, hpast⟩ := h
    exact ⟨s, hs, hpast.trans hrun⟩
  obtain ⟨hinv', hdelivers⟩ := keyInv_of_reachable hreach
  have hlater := laterOn_of_run h hrun
  constructor
  case terminalized =>
    intro hterminalized
    refine ⟨?_, fun i k r hi hdone => ?_⟩
    · obtain ⟨-, newer, htrace, hnewer⟩ := hlater
      have hnone : creations key newer = [] := by
        refine List.eq_nil_iff_forall_not_mem.mpr fun e he => ?_
        obtain ⟨hmem, batch, hbatch, hbound⟩ := mem_creations.mp he
        obtain ⟨digest, hbinding⟩ := Batch.boundTo_iff.mp hbound
        obtain ⟨b, hb, hkey, -⟩ := (hnewer e hmem).terminalized hterminalized
        exact committed_before hbatch hbinding b hb hkey
      rw [creations, htrace, List.filter_append]
      exact (congrArg (· ++ creations key g.world.trace) hnone).trans (List.nil_append _)
    · have hreturns : Returns C k i r g'.world := hdelivers i k (.ok r) hdone
      obtain ⟨e, he, hlive⟩ := hreturns.live
      rw [hdone.carried] at hlive
      exact hlive ((before_of_later h hlater hi e he).terminalized hterminalized)
  case conflict =>
    intro b hb hkey i k outcome hi hdone hdigest
    obtain rfl := hdone.carried
    cases outcome with
    | ok r =>
      have hreturns : Returns C k i r g'.world := hdelivers i k (.ok r) hdone
      -- The creation for its request has left a binding, which is the one of `g`.
      obtain ⟨e, he, batch, hbatch, hbinding, -⟩ := hreturns.creation
      obtain ⟨b₁, hb₁, hkey₁, hbinding₁, -⟩ := hinv'.kept e he batch hbatch
      obtain ⟨b₂, hb₂, hkey₂, hdigest₂, -, -⟩ := hlater.kept b hb
      obtain rfl : b₁ = b₂ := Table.eq_of_clash hb₁ hb₂
        (by simp [clash, Keyed.key, hkey₁, hkey₂, hkey])
      have heq := (Prod.mk.inj (Option.some.inj (hbinding.symm.trans hbinding₁))).2
      exact absurd (heq.trans hdigest₂) hdigest
    | error f =>
      have hfails : Fails k i f g'.world := hdelivers i k (.error f) hdone
      rcases hfails with rfl | ⟨hundisputed, hanswered | ⟨cause, rfl⟩⟩
      · exact .inl rfl
      · obtain ⟨e, he, found, hfound⟩ := hanswered
        obtain ⟨b', rfl, hdigest'⟩ := lookup_of_kept hb hkey
          (before_of_later h hlater hi e he) hfound
        exact absurd ((hundisputed e he b' hfound).symm.trans hdigest') hdigest
      · exact .inr ⟨cause, rfl⟩

/-- Digests and ids in the plain. -/
def plainCrypto : Crypto where
  sha256Hex text := "#" ++ text
  hmacSha256Hex material secret := material ++ "|" ++ secret
  generateId := ⟨fun n => String.ofList (List.replicate n '1'), fun n m h => by
    simpa using congrArg List.length (congrArg String.toList h)⟩

/-- A deployment that mints legacy keys. -/
def plainDeployment : Deployment where
  mintsAr := false
  tag _ := ""
  tags _ := []
  credentialFromHex _ _ hex := .ok ("rk_" ++ hex)
  nonempty h := by
    obtain rfl := Except.ok.inj h
    rw [String.isEmpty_eq_false_iff]
    intro hempty
    simpa using congrArg String.toList hempty

/-- An owner's request under the key `job`. -/
def jobRequest (requestDigest : Hash) : CreateOptions :=
  ⟨some "owner", none, none, none, none, false, some "job", some requestDigest, none, none⟩

/-- The key of the request. -/
def jobKey : BindingKey := ⟨"#owner", "#job"⟩

def jobKeyed (requestDigest : Hash) : KeyedCreate := ⟨jobKey, requestDigest, "owner", "job"⟩

def createJob (requestDigest : Hash) : Call :=
  .createWorkspace plainDeployment "team" (jobRequest requestDigest)

def emptyStore : Store := ⟨.empty, .empty, .empty, 1⟩

/-- Everything is answered, a workspace is small, and a batch comes out as given. -/
def answers (fate : Fate) : (q : Stmt) → q.Answer
  | .generateId => ()
  | .issueCredential _ => "random"
  | .newDate => (0 : Seconds)
  | .parallel => true
  | .create _ | .deleteWorkspaces _ => (fate, (0 : Seconds))
  | .tombstone .. | .deleteChannels _ => fate
  | .exceedsAtomicDeleteSize _ | .restDrained _ => (none, false)
  | .channelPage _ => (none, [])
  | .binding _ | .workspace _ | .ownedWorkspace .. | .channel _ | .channelsOf _
  | .remaining _ => (none : Option StorageError)

/-- Call `i` executes so many statements. -/
def steps (i count : ℕ) (fate : Fate) : List (keyedService plainCrypto jobKey).Move :=
  List.replicate count (.exec i (answers fate))

lemma unclaimed_empty : Unclaimed plainCrypto jobKey emptyStore where
  unbound b hb := absurd hb (Table.not_mem_empty b)
  fresh r hr := absurd hr (Table.not_mem_empty r)

lemma carries_one : Carries plainCrypto jobKey "team" (jobRequest "one") (jobKeyed "one") :=
  ⟨⟨"team", none, none, some "owner", some "#owner", some (jobKeyed "one")⟩, by decide +kernel,
    rfl, rfl⟩

lemma carries_two : Carries plainCrypto jobKey "team" (jobRequest "two") (jobKeyed "two") :=
  ⟨⟨"team", none, none, some "owner", some "#owner", some (jobKeyed "two")⟩, by decide +kernel,
    rfl, rfl⟩

/-- What a create has come to. -/
def outcome? (g : Config lang Store Call.Result) (i : ℕ) : Option (Except Failure Created) :=
  match g.threads[i]? with
  | some ⟨.createWorkspace _ _ _, some (.done outcome)⟩ => some outcome
  | _ => none

/-- The reply of the first batch is lost, and the create recovers; a second create replays, and the
workspace is deleted. -/
def recoveredMoves : List (keyedService plainCrypto jobKey).Move :=
  [.start (createJob "one")] ++ steps 0 3 .commits ++
    steps 0 1 (.loses (.retryable .networkConnectionLost)) ++ steps 0 7 .commits ++
    [.start (createJob "one")] ++ steps 1 2 .commits ++
    [.start (.deleteWorkspace true "1")] ++ steps 2 2 .commits

def recoveredRun : Config lang Store Call.Result :=
  (keyedService plainCrypto jobKey).runFrom emptyStore recoveredMoves

/-- A third create comes after the delete. -/
def lateMoves : List (keyedService plainCrypto jobKey).Move :=
  [.start (createJob "one")] ++ steps 3 1 .commits

def lateRun : Config lang Store Call.Result :=
  lateMoves.foldl (keyedService plainCrypto jobKey).play recoveredRun

lemma allows_jobs {g : Config lang Store Call.Result}
    {moves : List (keyedService plainCrypto jobKey).Move}
    (h : ∀ c, System.Move.start c ∈ moves →
      c = createJob "one" ∨ c = createJob "two" ∨ ∃ deletable id, c = .deleteWorkspace deletable id) :
    (keyedService plainCrypto jobKey).AllowsAll (keyedCreates plainCrypto jobKey) g moves := by
  refine System.allowsAll_of_starts _ (fun _ _ _ => trivial) trivial (fun c hc => ?_) g
  rcases h c hc with rfl | rfl | ⟨deletable, id, rfl⟩
  · intro request hrequest
    obtain ⟨request', hchecked, hkeyed, hkey⟩ := carries_one
    obtain rfl : request' = request := Except.ok.inj (hchecked.symm.trans hrequest)
    exact ⟨_, hkeyed, hkey⟩
  · intro request hrequest
    obtain ⟨request', hchecked, hkeyed, hkey⟩ := carries_two
    obtain rfl : request' = request := Except.ok.inj (hchecked.symm.trans hrequest)
    exact ⟨_, hkeyed, hkey⟩
  · trivial

lemma recoveredRun_reachable :
    (keyedService plainCrypto jobKey).Reachable (keyedCreates plainCrypto jobKey) recoveredRun := by
  refine System.runFrom_reachable_of _ _ unclaimed_empty (allows_jobs fun c hc => ?_)
  simp [recoveredMoves, steps] at hc
  rcases hc with rfl | rfl
  · exact .inl rfl
  · exact .inr (.inr ⟨_, _, rfl⟩)

lemma lateRun_steps : Relation.ReflTransGen
    ((keyedService plainCrypto jobKey).Step (keyedCreates plainCrypto jobKey))
    recoveredRun lateRun := by
  refine System.plays_steps _ _ (allows_jobs fun c hc => ?_)
  simp [lateMoves, steps] at hc
  exact .inl hc

/-- While a create for another request is between its lookup and its batch, the key is bound; then
each of its five batches is lost before it reaches the database. -/
def unansweredMoves : List (keyedService plainCrypto jobKey).Move :=
  [.start (createJob "two")] ++ steps 0 3 .commits ++
    [.start (createJob "one")] ++ steps 1 4 .commits ++
    steps 0 5 (.fails (.retryable .networkConnectionLost)) ++ steps 0 3 .commits

def unansweredRun : Config lang Store Call.Result :=
  (keyedService plainCrypto jobKey).runFrom emptyStore unansweredMoves

end Workspace
