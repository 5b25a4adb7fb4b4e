import Relaycast.React.Replay

/-!
# Events handled twice, and all of it together

An event that is handled twice in a row does what it does once: messages and replies are appended
under an id that is looked for first, reactions and members by name, and everything else is written
as it is.  The exceptions are the counts beside what they count: the second removal of a reaction
would be stray if its group is still there, and the two events of membership move the member count
of the channel each time.
-/

namespace React

open Script Reactive

/-- Does the event change who is in a channel? -/
def Event.isMembership : Event → Bool
  | .memberJoined _ _ | .memberLeft _ _ => true
  | _ => false

/-- The same timelines and threads, with their reactions and reply counts, and the same member
lists; and the same channels with their member counts, unless `e` is an event of membership. -/
structure SameFor (e : Event) (s s' : StoreState) : Prop where
  channelMessages : s.channelMessages = s'.channelMessages
  threads : s.threads = s'.threads
  channelDetails : s.channelDetails = s'.channelDetails
  channels : e.isMembership = false → s.channels = s'.channels

lemma SameFor.rfl {e : Event} {s : StoreState} : SameFor e s s :=
  ⟨Eq.refl _, Eq.refl _, Eq.refl _, fun _ => Eq.refl _⟩

section Twice

variable {s s' : StoreState} {now now' : String} {e : Event}

/-- A reaction that finds its message as it would leave it. -/
lemma handleReaction_self {messageId : String} {updater : List ReactionGroup → List ReactionGroup}
    (h : ∀ p, s.Shows p → p.1 = messageId → updater p.2 = p.2) :
    handleReaction s messageId updater = s := by
  have hmessage : ∀ m ∈ s.copies, (m.id == messageId) = true → Message.react updater m = m := by
    intro m hm hid
    have hsame := h m.pair ⟨m, hm, rfl⟩ (eq_of_beq hid)
    show { m with reactions := updater m.reactions } = m
    rw [show updater m.reactions = m.reactions from hsame]
  have hlist : ∀ ms : List Message, (∀ m ∈ ms, m ∈ s.copies) →
      updateReactionsOnMessage ms messageId updater =
        if ms.any (·.id == messageId) then some ms else none := by
    intro ms hms
    unfold updateReactionsOnMessage
    rw [replaceFirst_self fun m hm => hmessage m (hms m hm)]
  have hchannels : s.channelMessages.mapValues (ChannelMessages.react messageId updater) =
      s.channelMessages := by
    refine Dict.mapValues_self fun k c hc => ?_
    have hms : ∀ m ∈ c.messages, m ∈ s.copies := fun m hm =>
      List.mem_append_left _ (List.mem_flatMap.mpr ⟨(k, c), hc, hm⟩)
    unfold ChannelMessages.react
    rw [hlist c.messages hms]
    split_ifs <;> rfl
  have hthreads : s.threads.mapValues (ThreadData.react messageId updater) = s.threads := by
    refine Dict.mapValues_self fun k t ht => ?_
    have hcopies : ∀ m ∈ t.copies, m ∈ s.copies := fun m hm =>
      List.mem_append_right _ (List.mem_flatMap.mpr ⟨(k, t), ht, hm⟩)
    unfold ThreadData.react
    rw [hlist t.replies fun m hm => hcopies m (List.mem_append_right _ hm)]
    split_ifs
    · rfl
    · cases hparent : t.parent with
      | none => rfl
      | some m =>
        have hm : m ∈ s.copies := hcopies m (List.mem_append_left _ (by simp [hparent]))
        dsimp only
        split_ifs with hid
        · rw [hmessage m hm (by simpa using hid), ← hparent]
        · rfl
  unfold handleReaction
  rw [hchannels, hthreads]

/-- Whether a thread reply throws does not depend on the time. -/
lemma handleThreadReply_none {parentId : String} {p : Payload}
    (h : handleThreadReply now s parentId p = none) :
    handleThreadReply now' s parentId p = none := by
  have hfirst : s.updateThread parentId (fun prev =>
      if prev.hasReply p.id then prev
      else { prev with replies := prev.replies ++ [threadReply now parentId prev p] }) = none := by
    by_contra hsome
    obtain ⟨s₁, hs₁⟩ := Option.ne_none_iff_exists'.mp hsome
    unfold handleThreadReply at h
    rw [hs₁] at h
    simp only [Option.bind_eq_bind, Option.bind_some] at h
    split_ifs at h with hinserted
    obtain ⟨d, hd, rfl⟩ := updateThread_eq hs₁
    have hget := get?_of_updateKey hd
    simp only [StoreState.updateThread, updateKey, hget, Option.map_some, Option.bind_some] at h
    split at h
    · simp at h
    · next channel hchannel =>
      have hkey := List.mem_of_find?_eq_some hchannel
      obtain ⟨c, hc⟩ := Dict.mem_keys.mp hkey
      have hgetc := Dict.get?_eq_some.mpr hc
      simp [StoreState.updateChannelMessages, updateKey, hgetc] at h
  have hkey : updateKey s.threads parentId DEFAULT_THREAD (fun prev =>
      if prev.hasReply p.id then prev
      else { prev with replies := prev.replies ++ [threadReply now parentId prev p] }) = none :=
    Option.map_eq_none_iff.mp hfirst
  unfold handleThreadReply StoreState.updateThread
  rw [updateKey_none hkey]
  rfl

/-- After a thread reply the reply is in the thread. -/
lemma hasReply_after {parentId : String} {p : Payload}
    (h : handleThreadReply now s parentId p = some s') :
    (s'.thread parentId).hasReply p.id = true := by
  rcases handleThreadReply_cases h with ⟨hreply, rfl⟩ | ⟨hreply, s₁, s₂, hs₁, hs₂, hs'⟩
  · exact hreply
  · have happended : (s₁.thread parentId).hasReply p.id = true := by
      obtain ⟨d, hd, rfl⟩ := updateThread_eq hs₁
      have hcurrent := current_of_updateKey hd
      show (current d parentId DEFAULT_THREAD).hasReply p.id = true
      rw [hcurrent, show current s.threads parentId DEFAULT_THREAD = s.thread parentId from rfl,
        if_neg (by simp [hreply])]
      simp [ThreadData.hasReply, threadReply]
    have hcounted : (s₂.thread parentId).hasReply p.id = true := by
      obtain ⟨d, hd, rfl⟩ := updateThread_eq hs₂
      have hcurrent := current_of_updateKey hd
      show (current d parentId DEFAULT_THREAD).hasReply p.id = true
      rw [hcurrent]
      exact happended
    rcases hs' with rfl | ⟨channel, hchannel⟩
    · exact hcounted
    · obtain ⟨d, -, rfl⟩ := updateChannelMessages_eq hchannel
      exact hcounted

/-- A thread reply that is handled again leaves the store alone. -/
lemma threadReply_again {parentId : String} {p : Payload} :
    (s.after (now, .threadReply parentId p)).after (now', .threadReply parentId p) =
      s.after (now, .threadReply parentId p) := by
  cases hfirst : handleServerEvent now s (.threadReply parentId p) with
  | none =>
    have hagain : handleServerEvent now' s (.threadReply parentId p) = none :=
      handleThreadReply_none hfirst
    simp only [StoreState.after, hfirst, Option.getD_none, hagain]
  | some s' =>
    have hreply := hasReply_after hfirst
    simp only [StoreState.after, hfirst, Option.getD_some]
    cases hagain : handleServerEvent now' s' (.threadReply parentId p) with
    | none => rfl
    | some s'' =>
      rcases handleThreadReply_cases hagain with ⟨-, rfl⟩ | ⟨hnot, -⟩
      · rfl
      · rw [hreply] at hnot
        exact absurd hnot (by simp)

/-- A write of a timeline that keeps what it has written is done once. -/
lemma channelMessages_again {channel : String} {f f' : ChannelMessages → ChannelMessages}
    (hf : ∀ c, f' (f c) = f c) (hs : handleServerEvent now s e = s.updateChannelMessages channel f)
    (hs' : ∀ s, handleServerEvent now' s e = s.updateChannelMessages channel f') :
    (s.after (now, e)).after (now', e) = s.after (now, e) := by
  unfold StoreState.after
  rw [hs, hs']
  cases hfirst : s.updateChannelMessages channel f with
  | none =>
    have hagain : s.updateChannelMessages channel f' = none := by
      have hkey := Option.map_eq_none_iff.mp hfirst
      unfold StoreState.updateChannelMessages
      rw [updateKey_none hkey]
      rfl
    rw [Option.getD_none, hagain, Option.getD_none]
  | some s' =>
    obtain ⟨d, hd, rfl⟩ := updateChannelMessages_eq hfirst
    rw [Option.getD_some]
    unfold StoreState.updateChannelMessages
    rw [updateKey_again hd hf]
    rfl

/-- A write of a member list that keeps what it has written is done once; the counts move again. -/
lemma channelDetail_again {channel : String} {f f' : ChannelDetail → ChannelDetail}
    {g : Channel → Channel} (hf : ∀ c, f' (f c) = f c) (he : e.isMembership = true)
    (hs : handleServerEvent now s e =
      (s.updateChannelDetail channel f).map (·.updateChannels channel g))
    (hs' : ∀ s, handleServerEvent now' s e =
      (s.updateChannelDetail channel f').map (·.updateChannels channel g)) :
    SameFor e ((s.after (now, e)).after (now', e)) (s.after (now, e)) := by
  have hcounts : e.isMembership = false → False := by simp [he]
  unfold StoreState.after
  rw [hs, hs']
  cases hfirst : s.updateChannelDetail channel f with
  | none =>
    have hagain : s.updateChannelDetail channel f' = none := by
      have hkey := Option.map_eq_none_iff.mp hfirst
      unfold StoreState.updateChannelDetail
      rw [updateKey_none hkey]
      rfl
    rw [Option.map_none, Option.getD_none, hagain, Option.map_none, Option.getD_none]
    exact .rfl
  | some s' =>
    obtain ⟨d, hd, rfl⟩ := updateChannelDetail_eq hfirst
    rw [Option.map_some, Option.getD_some]
    unfold StoreState.updateChannelDetail StoreState.updateChannels
    rw [updateKey_again hd hf]
    exact ⟨rfl, rfl, rfl, fun h => (hcounts h).elim⟩

/-- **An orderly event that is handled twice in a row.** -/
theorem after_twice (hs : s.Unique) (hcoherent : Coherent s) (horderly : Orderly s e)
    (hagain : Orderly (s.after (now, e)) e) :
    SameFor e ((s.after (now, e)).after (now', e)) (s.after (now, e)) := by
  obtain ⟨hgrouped, -⟩ := coherent_iff.mp hcoherent
  cases e with
  | messageCreated channel p createdAt =>
    rw [channelMessages_again (fun c => ?_) rfl fun _ => rfl]
    · exact .rfl
    · by_cases hany : c.messages.any (·.id == p.id) = true
      · simp [hany]
      · simp [hany, createdMessage]
  | messageUpdated channel messageId text =>
    rw [channelMessages_again (fun c => ?_) rfl fun _ => rfl]
    · exact .rfl
    · dsimp only
      rw [replaceFirst_replaceFirst]
      · exact fun _ => rfl
      · exact fun _ => rfl
  | threadReply parentId p =>
    rw [threadReply_again]
    exact .rfl
  | messageReacted messageId emoji agentName action =>
    have hshows : ∀ p, (handleReaction s messageId (reaction emoji agentName action)).Shows p ↔
        ∃ q, s.Shows q ∧ p = reactPair messageId (reaction emoji agentName action) q :=
      shows_handleReaction hs
    have hafter : s.after (now, .messageReacted messageId emoji agentName action) =
        handleReaction s messageId (reaction emoji agentName action) :=
      handleMessageReacted_eq s messageId emoji agentName action
    have htwice : ∀ s : StoreState,
        s.after (now', .messageReacted messageId emoji agentName action) =
          handleReaction s messageId (reaction emoji agentName action) := fun s =>
      handleMessageReacted_eq s messageId emoji agentName action
    rw [hafter] at hagain ⊢
    rw [htwice, handleReaction_self fun p hp hid => ?_]
    · exact .rfl
    · obtain ⟨q, hq, rfl⟩ := (hshows p).mp hp
      have hqid : q.1 = messageId := hid
      have hreact : (reactPair messageId (reaction emoji agentName action) q).2 =
          reaction emoji agentName action q.2 := by simp [reactPair, hqid]
      rw [hreact]
      by_cases hremoved : action = some .removed
      · have hstray := horderly.not_stray hq hqid hremoved
        have hagain' := hagain.not_stray hp hid hremoved
        rw [hreact] at hagain'
        simp only [reaction, if_pos hremoved] at hagain' ⊢
        exact removeReaction_again (hgrouped q hq) hstray hagain'
      · simp only [reaction, if_neg hremoved]
        exact addReaction_again (hgrouped q hq)
  | agentStatus status agentName =>
    have hframe : ∀ (now : String) (s : StoreState), SameFor (.agentStatus status agentName)
        (handlePresenceChange now s status agentName) s := by
      intro now s
      unfold handlePresenceChange
      dsimp only
      split_ifs <;> exact ⟨rfl, rfl, rfl, fun _ => rfl⟩
    exact hframe now' (handlePresenceChange now s status agentName)
  | channelCreated name topic =>
    show SameFor _ (handleChannelCreated now' (handleChannelCreated now s name topic) name topic)
      (handleChannelCreated now s name topic)
    by_cases hany : s.channels.any (·.name == name) = true
    · simp only [handleChannelCreated, hany, if_true]
      exact .rfl
    · have hcreated : (handleChannelCreated now s name topic).channels.any (·.name == name) =
          true := by
        simp [handleChannelCreated, hany]
      generalize handleChannelCreated now s name topic = created at hcreated ⊢
      simp only [handleChannelCreated, hcreated, if_true]
      exact .rfl
  | channelUpdated name topic =>
    refine ⟨rfl, rfl, rfl, fun _ => ?_⟩
    show List.map _ (List.map _ _) = List.map _ _
    rw [List.map_map]
    refine List.map_congr_left fun c _ => ?_
    by_cases hname : c.name = name <;> simp [hname]
  | channelArchived name =>
    refine ⟨rfl, rfl, rfl, fun _ => ?_⟩
    show List.map _ (List.map _ _) = List.map _ _
    rw [List.map_map]
    refine List.map_congr_left fun c _ => ?_
    by_cases hname : c.name = name <;> simp [hname]
  | memberJoined channel agentName =>
    refine channelDetail_again (fun c => ?_) rfl (Option.map_eq_bind.symm) fun _ =>
      Option.map_eq_bind.symm
    by_cases hany : c.members.any (·.agentName == agentName) = true
    · simp [hany]
    · simp [hany]
  | memberLeft channel agentName =>
    refine channelDetail_again (fun c => ?_) rfl (Option.map_eq_bind.symm) fun _ =>
      Option.map_eq_bind.symm
    simp [List.filter_filter]
  | dmReceived => exact ⟨rfl, rfl, rfl, fun _ => rfl⟩
  | other => exact .rfl

end Twice

/-! ## Runs -/

/-- The store handles an event, at a time. -/
def handle (s : StoreState) (e : String × Event) : Option StoreState := some (s.after e)

/-- Every event is orderly in the store that handles it. -/
def OrderlyAlong (s : StoreState) (es : List (String × Event)) : Prop :=
  Along handle (fun s e => Orderly s e.2) s es

section Runs

variable {s s' : StoreState} {es : List (String × Event)}

lemma coherent_run (hs : s.Unique) (hcoherent : Coherent s) (horderly : OrderlyAlong s es)
    (hrun : run handle s es = some s') : s'.Unique ∧ Coherent s' := by
  refine along_induction (I := fun s => s.Unique ∧ Coherent s) ?_ ⟨hs, hcoherent⟩ horderly hrun
  rintro s e s' ⟨hs, hcoherent⟩ he hstep
  obtain rfl : s.after e = s' := Option.some.inj hstep
  exact ⟨unique_after hs he, hcoherent.after hs he⟩

lemma answers_run {messageId emoji agentName : String} {listed : Bool} (hs : s.Unique)
    (hcoherent : Coherent s) (horderly : OrderlyAlong s es) (hrun : run handle s es = some s')
    (h : Answers s messageId emoji agentName listed) :
    Answers s' messageId emoji agentName
      (lastReaction messageId emoji agentName s es listed) := by
  induction es generalizing s listed with
  | nil =>
    obtain rfl : s = s' := Option.some.inj hrun
    exact h
  | cons e es ih =>
    obtain ⟨s₁, hfirst, hrest⟩ := run_cons.mp hrun
    obtain rfl : s.after e = s₁ := Option.some.inj hfirst
    exact ih (unique_after hs horderly.1) (hcoherent.after hs horderly.1)
      (horderly.2 _ hfirst) hrest (h.after hcoherent hs horderly.1)

end Runs

/-! ### A thread whose parent is on no timeline -/

/-- The message that opens the thread. -/
def opening : Payload := ⟨"m1", "ann", none, "hello", none, none⟩

/-- A store that knows the message as the parent of a thread only. -/
def threadOnly : StoreState where
  channelMessages := Dict.empty
  threads := Dict.empty.set "m1"
    ⟨some (createdMessage "09:00" "general" opening none), [], false, none⟩
  channels := []
  channelDetails := Dict.empty
  agents := []
  dmsLoading := false

lemma threadOnly_unique : threadOnly.Unique := by
  refine ⟨fun k c hc => absurd hc List.not_mem_nil, fun k t ht => ?_⟩
  obtain ⟨-, rfl⟩ := Prod.mk.inj (List.mem_singleton.mp ht)
  decide

lemma threadOnly_coherent : Coherent threadOnly := by
  have hbare : ∀ m ∈ threadOnly.copies, m.reactions = [] := by decide
  refine ⟨fun m hm => ?_, fun m hm m' hm' _ => ?_⟩
  · rw [hbare m hm]
    exact ⟨by simp, by simp, by simp⟩
  · rw [hbare m hm, hbare m' hm']

/-- A reaction is added, a reply comes twice, and the reaction is removed. -/
def reactedAndReplied : List (String × Event) :=
  [("10:00", .messageReacted "m1" "wave" "bob" (some .added)),
    ("10:01", .threadReply "m1" ⟨"m2", "bob", none, "hi", none, none⟩),
    ("10:02", .threadReply "m1" ⟨"m2", "bob", none, "hi", none, none⟩),
    ("10:03", .messageReacted "m1" "wave" "bob" (some .removed))]

lemma reactedAndReplied_orderly : OrderlyAlong threadOnly reactedAndReplied := by
  refine ⟨trivial, ?_⟩
  intro s₁ h₁
  obtain rfl := Option.some.inj h₁
  refine ⟨fun _ => ⟨?_, ?_⟩, ?_⟩
  · rintro p ⟨m, hm, rfl⟩
    revert m
    decide +kernel
  · show ∀ m ∈ (StoreState.thread _ "m1").parent, m.id ≠ "m2"
    decide +kernel
  intro s₂ h₂
  obtain rfl := Option.some.inj h₂
  refine ⟨fun hnew => absurd hnew (by decide +kernel), ?_⟩
  intro s₃ h₃
  obtain rfl := Option.some.inj h₃
  refine ⟨?_, fun _ _ => trivial⟩
  rintro p ⟨m, hm, rfl⟩ hid
  revert m
  unfold NotStray
  decide +kernel

end React
