import Relaycast.Channel.Named

/-!
# Direct messages behind the names of channels

The channel of a conversation has a name like any other, derived from a digest that is no secret,
and none of the operations that take a name looks at the type of the channel it found.  So they
reach the messages, the members and the row of a conversation's channel for everyone
(`not_apart_archiveByName`), where the routes of direct messages ask for a participant.

What keeps a conversation apart is that nobody outside it uses the name of its channel.  The proof
is the frame of each operation: it returns and changes rows of the channel its name stands for, in
the table or in the cache, and of no other.
-/

namespace Channel

open Relational

/-- The channels a name stands for: the one in the table, and the one a live entry of the cache
shows. -/
def resolves (s : Store) (now : Millis) (name : String) : List String :=
  ((s.channel? name).map (·.id)).toList ++ ((s.cached? now name).map (·.id)).toList

/-- The reply shows something of the channel. -/
def Reply.Reveals (d : Row) : Reply → Prop
  | .channel view => view.id = d.id
  | .messages page => ∃ m ∈ page, m.channelId = d.id
  | .message m => m.channelId = d.id
  | .joined name _ _ => name = d.name
  | .invited name _ => name = d.name
  | .updated row => row.id = d.id
  | .archived name => name = d.name

/-- Nothing of the channel was added, changed or removed. -/
structure Spared (s s' : Store) (d : Row) : Prop where
  row : d ∈ s'.channels
  members : ∀ m, m.channelId = d.id → (m ∈ s'.members ↔ m ∈ s.members)
  messages : ∀ m, m.channelId = d.id → (m ∈ s'.messages ↔ m ∈ s.messages)

/-- The channel is one of direct messages, and the agent takes no part in them. -/
structure Foreign (s : Store) (agentId : String) (d : Row) : Prop where
  mem : d ∈ s.channels
  direct : d.channelType ≠ 0
  outside : s.participates d.id agentId = false

/-- The request neither shows nor touches the direct messages of others. -/
def Apart (s : Store) (r : Request) : Prop :=
  ∀ d, Foreign s r.agentId d → Spared s (perform s r).1 d ∧
    ∀ reply, (perform s r).2 = .ok reply → ¬ reply.Reveals d

/-- The name of the request does not stand for a channel of direct messages of others. -/
def NamesNoForeignDm (s : Store) (r : Request) : Prop :=
  ∀ d, Foreign s r.agentId d → d.id ∉ resolves s r.now r.name

/-- Every request of the sequence, where it comes to be performed, is as `P` says. -/
def AllSteps (P : Store → Request → Prop) (s : Store) : List Request → Prop
  | [] => True
  | r :: requests => P s r ∧ AllSteps P (perform s r).1 requests

/-! ## What the operations leave alone -/

variable {s s' : Store} {now : Millis} {name : String} {d : Row}

lemma Spared.refl (hd : d ∈ s.channels) : Spared s s d :=
  ⟨hd, fun _ _ => Iff.rfl, fun _ _ => Iff.rfl⟩

lemma Spared.congr (hd : d ∈ s.channels) (hchannels : s'.channels = s.channels)
    (hmembers : s'.members = s.members) (hmessages : s'.messages = s.messages) :
    Spared s s' d :=
  ⟨hchannels ▸ hd, fun _ _ => by rw [hmembers], fun _ _ => by rw [hmessages]⟩

/-- A member of another channel is added. -/
lemma Spared.insertMember (h : Spared s s' d) {m : Member} (hm : m.channelId ≠ d.id) :
    Spared s { s' with members := s'.members.insertOrIgnore m } d where
  row := h.row
  messages := h.messages
  members m' hm' := by
    rw [← h.members m' hm']
    constructor
    · intro hmem
      rcases Table.mem_insertOrIgnore hmem with hmem | ⟨rfl, -⟩
      · exact hmem
      · exact absurd hm' hm
    · exact Table.mem_insertOrIgnore_of_mem

/-- A message to another channel is added. -/
lemma Spared.insertMessage (h : Spared s s' d) {m : Message} (hm : m.channelId ≠ d.id) :
    Spared s { s' with messages := s'.messages.insertOrIgnore m } d where
  row := h.row
  members := h.members
  messages m' hm' := by
    rw [← h.messages m' hm']
    constructor
    · intro hmem
      rcases Table.mem_insertOrIgnore hmem with hmem | ⟨rfl, -⟩
      · exact hmem
      · exact absurd hm' hm
    · exact Table.mem_insertOrIgnore_of_mem

/-- Another channel is updated. -/
lemma Spared.updateChannels (h : Spared s s' d) {id : String} (hid : id ≠ d.id) {f : Row → Row}
    {hf : ∀ c, key (f c) = key c} :
    Spared s { s' with channels := s'.channels.update (·.id == id) f hf } d where
  row := by
    have hkept : d ∈ s'.channels.update (·.id == id) f hf :=
      Table.mem_update.mpr ⟨d, h.row, by simp [Ne.symm hid]⟩
    exact hkept
  members := h.members
  messages := h.messages

lemma Spared.invalidate (h : Spared s s' d) (name : String) :
    Spared s (s'.invalidateChannelCache name) d := ⟨h.row, h.members, h.messages⟩

/-- The channel the name finds in the table. -/
lemma mem_resolves_of_channel? {c : Row} (hc : s.channel? name = some c) :
    c.id ∈ resolves s now name := by
  simp [resolves, hc]

/-- A name that stands for another channel is not the name of this one. -/
lemma ne_name (hd : d ∈ s.channels) (hname : d.id ∉ resolves s now name) {c : Row}
    (hc : s.channel? name = some c) : name ≠ d.name := by
  intro heq
  have hcname : c.name = name := by simpa using List.find?_some hc
  have hsame : c = d := Table.eq_of_clash (List.mem_of_find?_eq_some hc) hd
    (by simp [clash, key, hcname, heq])
  exact hname (hsame ▸ mem_resolves_of_channel? hc)

/-- **What reading a channel does**: the tables stay, and what it shows is a channel its name
stands for. -/
lemma getChannel_spec {view? : Option View} (h : getChannel s now name = (s', view?)) :
    (s'.channels = s.channels ∧ s'.members = s.members ∧ s'.messages = s.messages) ∧
      ∀ view, view? = some view → view.id ∈ resolves s now name := by
  unfold getChannel at h
  split at h
  · rename_i data hcached
    obtain ⟨rfl, rfl⟩ := Prod.mk.inj h
    refine ⟨⟨rfl, rfl, rfl⟩, fun view hview => ?_⟩
    obtain rfl := Option.some.inj hview
    have hlive : s.cached? now name = some data := by
      by_cases hsub : isSubscriptionChannel name = true <;> simp_all
    simp [resolves, hlive]
  · cases hc : s.channel? name with
    | none =>
      simp only [hc] at h
      obtain ⟨rfl, rfl⟩ := Prod.mk.inj h
      exact ⟨⟨rfl, rfl, rfl⟩, fun view hview => by simp at hview⟩
    | some channel =>
      simp only [hc] at h
      obtain ⟨rfl, rfl⟩ := Prod.mk.inj h
      refine ⟨?_, fun view hview => ?_⟩
      · split <;> exact ⟨rfl, rfl, rfl⟩
      · obtain rfl := Option.some.inj hview
        exact mem_resolves_of_channel? hc

/-- The operations' common shape: the direct messages of others are spared, and not shown. -/
def Safe (s : Store) (d : Row) (o : Outcome) : Prop :=
  Spared s o.1 d ∧ ∀ reply, o.2 = .ok reply → ¬ reply.Reveals d

lemma Safe.error (h : Spared s s' d) (e : CodedError) : Safe s d (s', .error e) :=
  ⟨h, fun _ hreply => by simp at hreply⟩

lemma Safe.ok (h : Spared s s' d) {reply : Reply} (hreply : ¬ reply.Reveals d) :
    Safe s d (s', .ok reply) := by
  refine ⟨h, fun reply' heq => ?_⟩
  obtain rfl := Except.ok.inj heq
  exact hreply

section Operations

variable (hd : d ∈ s.channels) (hname : d.id ∉ resolves s now name)

include hd hname

lemma readChannel_safe : Safe s d (readChannel s now name) := by
  unfold readChannel
  split
  · rename_i s' view hget
    obtain ⟨⟨hchannels, hmembers, hmessages⟩, hview⟩ := getChannel_spec hget
    apply Safe.ok (.congr hd hchannels hmembers hmessages)
    intro hreveals
    exact hname (hreveals ▸ hview view rfl)
  · rename_i s' hget
    obtain ⟨⟨hchannels, hmembers, hmessages⟩, -⟩ := getChannel_spec hget
    exact .error (.congr hd hchannels hmembers hmessages) _

lemma listMessages_safe (opts : PageOptions) : Safe s d (listMessages s now name opts) := by
  unfold listMessages
  split
  · rename_i s' view hget
    obtain ⟨⟨hchannels, hmembers, hmessages⟩, hview⟩ := getChannel_spec hget
    apply Safe.ok (.congr hd hchannels hmembers hmessages)
    rintro ⟨m, hm, hmd⟩
    have hselected := List.mem_mergeSort.mp (List.mem_of_mem_take hm)
    have hchannel : m.channelId = view.id := by
      have hp := (Table.mem_select.mp hselected).2
      simp only [Bool.and_eq_true, beq_iff_eq] at hp
      exact hp.1.1.1
    exact hname (hmd ▸ hchannel ▸ hview view rfl)
  · rename_i s' hget
    obtain ⟨⟨hchannels, hmembers, hmessages⟩, -⟩ := getChannel_spec hget
    exact .error (.congr hd hchannels hmembers hmessages) _

lemma postMessage_safe (agentId messageId text : String) :
    Safe s d (postMessage s now name agentId messageId text) := by
  unfold postMessage
  split
  · rename_i s' view hget
    obtain ⟨⟨hchannels, hmembers, hmessages⟩, hview⟩ := getChannel_spec hget
    have hspared : Spared s s' d := .congr hd hchannels hmembers hmessages
    have hne : view.id ≠ d.id := fun heq => hname (heq ▸ hview view rfl)
    dsimp only
    split
    · exact .error hspared _
    · exact .ok (hspared.insertMessage hne) hne
  · rename_i s' hget
    obtain ⟨⟨hchannels, hmembers, hmessages⟩, -⟩ := getChannel_spec hget
    exact .error (.congr hd hchannels hmembers hmessages) _

/-- The channel that is found is another one. -/
lemma findChannel_spec {c : Row} (hc : findChannel s name = .ok c) :
    c.id ≠ d.id ∧ name ≠ d.name := by
  unfold findChannel at hc
  split at hc
  · rename_i channel hfind
    obtain rfl := Except.ok.inj hc
    refine ⟨fun heq => hname ?_, ne_name hd hname hfind⟩
    rw [← heq]
    exact mem_resolves_of_channel? hfind
  · simp at hc

omit hname in
/-- A member is added to another channel. -/
lemma insertMember_spec {c : Row} (hne : c.id ≠ d.id) {agentId : String}
    (h : insertMember s now c agentId = .ok s') : Spared s s' d := by
  unfold insertMember at h
  split at h
  · simp at h
  · obtain rfl := Except.ok.inj h
    exact (Spared.refl hd).insertMember hne

lemma joinChannel_safe (agentId : String) :
    Safe s d (outcome s (joinChannel s now name agentId)) := by
  cases hjoin : joinChannel s now name agentId with
  | error e => exact .error (.refl hd) e
  | ok result =>
    simp only [joinChannel, bind, Except.bind] at hjoin
    split at hjoin
    · simp at hjoin
    · rename_i channel hchannel
      obtain ⟨hne, hname'⟩ := findChannel_spec hd hname hchannel
      split at hjoin
      · simp at hjoin
      · split at hjoin
        · simp at hjoin
        · split at hjoin
          · obtain rfl := Except.ok.inj hjoin
            exact .ok (.refl hd) hname'
          · split at hjoin
            · simp at hjoin
            · rename_i s' hinsert
              obtain rfl := Except.ok.inj hjoin
              exact .ok ((insertMember_spec hd hne hinsert).invalidate name) hname'

lemma inviteAgent_safe (agentId invitee : String) :
    Safe s d (outcome s (inviteAgent s now name agentId invitee)) := by
  cases hinvite : inviteAgent s now name agentId invitee with
  | error e => exact .error (.refl hd) e
  | ok result =>
    simp only [inviteAgent, bind, Except.bind] at hinvite
    split at hinvite
    · simp at hinvite
    · rename_i channel hchannel
      obtain ⟨hne, hname'⟩ := findChannel_spec hd hname hchannel
      split at hinvite
      · simp at hinvite
      · split at hinvite
        · simp at hinvite
        · split at hinvite
          · simp at hinvite
          · split at hinvite
            · simp at hinvite
            · split at hinvite
              · obtain rfl := Except.ok.inj hinvite
                exact .ok (.refl hd) hname'
              · split at hinvite
                · simp at hinvite
                · rename_i s' hinsert
                  obtain rfl := Except.ok.inj hinvite
                  exact .ok ((insertMember_spec hd hne hinsert).invalidate name) hname'

lemma updateChannel_safe (updates : Updates) :
    Safe s d (outcome s (updateChannel s now name updates)) := by
  cases hupdate : updateChannel s now name updates with
  | error e => exact .error (.refl hd) e
  | ok result =>
    simp only [updateChannel, bind, Except.bind] at hupdate
    split at hupdate
    · simp at hupdate
    · rename_i channel hchannel
      obtain ⟨hne, -⟩ := findChannel_spec hd hname hchannel
      split at hupdate
      · simp at hupdate
      · split at hupdate
        · simp at hupdate
        · split at hupdate
          · split at hupdate
            · rename_i s' view hget
              obtain rfl := Except.ok.inj hupdate
              obtain ⟨⟨hchannels, hmembers, hmessages⟩, hview⟩ := getChannel_spec hget
              apply Safe.ok (.congr hd hchannels hmembers hmessages)
              intro hreveals
              exact hname (hreveals ▸ hview view rfl)
            · simp at hupdate
          · obtain rfl := Except.ok.inj hupdate
            exact .ok (((Spared.refl hd).updateChannels hne).invalidate name) hne

lemma archiveChannel_safe : Safe s d (outcome s (archiveChannel s name)) := by
  cases harchive : archiveChannel s name with
  | error e => exact .error (.refl hd) e
  | ok result =>
    simp only [archiveChannel, bind, Except.bind] at harchive
    split at harchive
    · simp at harchive
    · split at harchive
      · simp at harchive
      · rename_i channel hchannel
        obtain ⟨hne, hname'⟩ := findChannel_spec hd hname hchannel
        obtain rfl := Except.ok.inj harchive
        exact .ok (((Spared.refl hd).updateChannels hne).invalidate name) hname'

end Operations

/-- **One request** leaves the direct messages of others alone, if its name does not stand for
their channel. -/
lemma apart_of_namesNoForeignDm {r : Request} (h : NamesNoForeignDm s r) : Apart s r := by
  intro d hforeign
  have hd := hforeign.mem
  have hname := h d hforeign
  obtain ⟨name, agentId, now, op⟩ := r
  cases op with
  | readChannel => exact readChannel_safe hd hname
  | listMessages opts => exact listMessages_safe hd hname opts
  | postMessage messageId text => exact postMessage_safe hd hname agentId messageId text
  | joinChannel => exact joinChannel_safe hd hname agentId
  | inviteAgent invitee => exact inviteAgent_safe hd hname agentId invitee
  | updateChannel updates => exact updateChannel_safe hd hname updates
  | archiveChannel => exact archiveChannel_safe hd hname

/-- **Direct messages behind the names of channels.**  Along every sequence of requests none of
which names the channel of a conversation its agent takes no part in, no request shows, adds or
changes anything of such a channel. -/
theorem apart_of_allNamesNoForeignDm {requests : List Request}
    (h : AllSteps NamesNoForeignDm s requests) : AllSteps Apart s requests := by
  induction requests generalizing s with
  | nil => trivial
  | cons r requests ih => exact ⟨apart_of_namesNoForeignDm h.1, ih h.2⟩

/-- Two agents with a conversation, a third one, and an ordinary channel. -/
def workspaceWithDm : Store where
  channels :=
    (Table.empty.insertOrIgnore ⟨"dmch_ab", "dm-ab", 1, none, [], 0, false⟩).insertOrIgnore
      ⟨"1", "general", 0, none, [], 0, false⟩
  members := .empty
  agents := ((Table.empty.insertOrIgnore ⟨"a", "alice", false⟩).insertOrIgnore
    ⟨"b", "bob", false⟩).insertOrIgnore ⟨"c", "carol", false⟩
  messages := Table.empty.insertOrIgnore ⟨"1", "dmch_ab", "a", none, "hello"⟩
  conversations := Table.empty.insertOrIgnore ⟨"dm_ab", "dmch_ab", "1:1"⟩
  participants := (Table.empty.insertOrIgnore ⟨"dm_ab", "a", false⟩).insertOrIgnore
    ⟨"dm_ab", "b", false⟩
  cache := []

/-- Anyone joins and posts to the ordinary channel. -/
def ordinaryRequests : List Request :=
  [⟨"general", "c", 0, .joinChannel⟩, ⟨"general", "c", 1, .postMessage "2" "hi"⟩]

theorem apart_of_allNamesNoForeignDm_ordinaryRequests :
    AllSteps Apart workspaceWithDm ordinaryRequests := by
  apply apart_of_allNamesNoForeignDm
  have hjoin : ∀ d ∈ workspaceWithDm.channels.rows, d.channelType ≠ 0 →
      d.id ∉ resolves workspaceWithDm 0 "general" := by decide +kernel
  have hpost : ∀ d ∈ (perform workspaceWithDm ordinaryRequests[0]).1.channels.rows,
      d.channelType ≠ 0 →
        d.id ∉ resolves (perform workspaceWithDm ordinaryRequests[0]).1 1 "general" := by
    decide +kernel
  exact ⟨fun d hd => hjoin d hd.mem hd.direct, fun d hd => hpost d hd.mem hd.direct, trivial⟩

/-- An agent outside the conversation archives its channel by the channel's name. -/
theorem not_apart_archiveByName :
    ¬ AllSteps Apart workspaceWithDm [⟨"dm-ab", "c", 0, .archiveChannel⟩] := by
  rintro ⟨h, -⟩
  have hforeign : Foreign workspaceWithDm "c" ⟨"dmch_ab", "dm-ab", 1, none, [], 0, false⟩ :=
    ⟨List.mem_cons_self, by simp, by decide +kernel⟩
  obtain ⟨hspared, -⟩ := h _ hforeign
  have hrows : ∀ c ∈ (perform workspaceWithDm ⟨"dm-ab", "c", 0, .archiveChannel⟩).1.channels.rows,
      c.id = "dmch_ab" → c.isArchived = true := by decide +kernel
  have harchived := hrows _ hspared.row rfl
  simp at harchived

end Channel
