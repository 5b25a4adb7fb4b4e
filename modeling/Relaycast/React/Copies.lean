import Relaycast.React.Reducer

/-!
# The cached copies of a message

A message can be cached in the timeline of its channel, as a reply, and as the parent of a thread.
What an event does to the reactions that are shown is said here about all copies together, in terms
of the pairs of an id and its reactions: most events leave the pairs alone, `message.created` and
`thread.reply` may add one without reactions, and a reaction changes every pair of its message,
provided no list holds a message twice.
-/

namespace React

open Script

/-! ## Copies -/

/-- The messages of a thread. -/
def ThreadData.copies (t : ThreadData) : List Message := t.parent.toList ++ t.replies

/-- Every cached message: of the channels, then of the threads. -/
def StoreState.copies (s : StoreState) : List Message :=
  (s.channelMessages.entries.flatMap fun entry => entry.2.messages) ++
    s.threads.entries.flatMap fun entry => entry.2.copies

/-- A message with the reactions shown on it. -/
abbrev Pair := String × List ReactionGroup

def Message.pair (m : Message) : Pair := (m.id, m.reactions)

/-- A copy with the id shows the reactions. -/
def StoreState.Shows (s : StoreState) (p : Pair) : Prop := ∃ m ∈ s.copies, m.pair = p

/-- No list holds a message twice, and no thread holds its parent among its replies. -/
structure StoreState.Unique (s : StoreState) : Prop where
  channels : ∀ k c, (k, c) ∈ s.channelMessages.entries → (c.messages.map (·.id)).Nodup
  threads : ∀ k t, (k, t) ∈ s.threads.entries → (t.copies.map (·.id)).Nodup

/-- Shown by a value of a dictionary, whose messages are `cs`. -/
def ShownIn {V : Type} (cs : V → List Message) (d : Dict V) (p : Pair) : Prop :=
  ∃ k v, (k, v) ∈ d.entries ∧ p ∈ (cs v).map Message.pair

lemma shows_iff {s : StoreState} {p : Pair} : s.Shows p ↔
    ShownIn ChannelMessages.messages s.channelMessages p ∨
      ShownIn ThreadData.copies s.threads p := by
  simp only [StoreState.Shows, StoreState.copies, ShownIn, List.mem_append, List.mem_flatMap,
    Prod.exists, List.mem_map]
  constructor
  · rintro ⟨m, ⟨k, v, hv, hm⟩ | ⟨k, v, hv, hm⟩, hp⟩
    · exact .inl ⟨k, v, hv, m, hm, hp⟩
    · exact .inr ⟨k, v, hv, m, hm, hp⟩
  · rintro (⟨k, v, hv, m, hm, hp⟩ | ⟨k, v, hv, m, hm, hp⟩)
    · exact ⟨m, .inl ⟨k, v, hv, hm⟩, hp⟩
    · exact ⟨m, .inr ⟨k, v, hv, hm⟩, hp⟩

/-! ## Writing one key -/

section UpdateKey

variable {V : Type} {d d' : Dict V} {key : String} {default : V} {updater updater' : V → V}

/-- The value an update reads. -/
def current (d : Dict V) (key : String) (default : V) : V := (d.get? key).getD default

lemma updateKey_eq (h : updateKey d key default updater = some d') :
    d' = d.set key (updater (current d key default)) := by
  unfold updateKey at h
  unfold current
  cases hget : d.get? key with
  | some v =>
    rw [hget] at h
    exact (Option.some.inj h).symm
  | none =>
    rw [hget] at h
    simp only [Option.ite_none_left_eq_some] at h
    exact (Option.some.inj h.2).symm

/-- Whether an update throws does not depend on what it writes. -/
lemma updateKey_none (h : updateKey d key default updater = none) :
    updateKey d key default updater' = none := by
  unfold updateKey at h ⊢
  cases hget : d.get? key with
  | some v => simp [hget] at h
  | none => simpa [hget] using h

/-- The value an update leaves. -/
lemma current_of_updateKey (h : updateKey d key default updater = some d') :
    current d' key default = updater (current d key default) := by
  rw [updateKey_eq h]
  simp [current]

/-- An update that leaves the present value alone leaves the dictionary alone, once the key is
there. -/
lemma updateKey_self {v : V} (hget : d.get? key = some v) (hv : updater v = v) :
    updateKey d key default updater = some d := by
  unfold updateKey
  rw [hget]
  simp only [hv, Dict.set_of_get? hget]

lemma get?_of_updateKey (h : updateKey d key default updater = some d') :
    d'.get? key = some (updater (current d key default)) := by
  rw [updateKey_eq h]
  exact Dict.get?_set_self

/-- Updating once more with something that keeps what was written changes nothing. -/
lemma updateKey_again (h : updateKey d key default updater = some d')
    (hv : ∀ v, updater' (updater v) = updater v) :
    updateKey d' key default updater' = some d' := updateKey_self (get?_of_updateKey h) (hv _)

variable {cs : V → List Message} {p : Pair}

/-- What is shown after one key was written. -/
lemma shownIn_updateKey {added : Pair → Prop} (h : updateKey d key default updater = some d')
    (hdefault : cs default = [])
    (hcs : ∀ p, p ∈ (cs (updater (current d key default))).map Message.pair ↔
      p ∈ (cs (current d key default)).map Message.pair ∨ added p) :
    ShownIn cs d' p ↔ ShownIn cs d p ∨ added p := by
  rw [updateKey_eq h]
  have hcurrent : ∀ v, (key, v) ∈ d.entries → current d key default = v := by
    intro v hv
    unfold current
    rw [Dict.get?_eq_some.mpr hv, Option.getD_some]
  constructor
  · rintro ⟨k, v, hv, hp⟩
    rcases Dict.mem_set.mp hv with ⟨rfl, rfl⟩ | ⟨hk, hv⟩
    · rcases (hcs p).mp hp with hp | hp
      · cases hget : d.get? k with
        | some v =>
          have hmem := Dict.get?_eq_some.mp hget
          rw [hcurrent v hmem] at hp
          exact .inl ⟨k, v, hmem, hp⟩
        | none =>
          rw [current, hget, Option.getD_none, hdefault] at hp
          exact absurd hp List.not_mem_nil
      · exact .inr hp
    · exact .inl ⟨k, v, hv, hp⟩
  · rintro (⟨k, v, hv, hp⟩ | hp)
    · by_cases hk : k = key
      · subst hk
        rw [← hcurrent v hv] at hp
        exact ⟨k, _, Dict.mem_set.mpr (.inl ⟨rfl, rfl⟩), (hcs p).mpr (.inl hp)⟩
      · exact ⟨k, v, Dict.mem_set.mpr (.inr ⟨hk, hv⟩), hp⟩
    · exact ⟨key, _, Dict.mem_set.mpr (.inl ⟨rfl, rfl⟩), (hcs p).mpr (.inr hp)⟩

/-- What holds of every value, after one key was written. -/
lemma forall_updateKey {P : V → Prop} (h : updateKey d key default updater = some d')
    (hd : ∀ k v, (k, v) ∈ d.entries → P v) (hcurrent : P (current d key default) →
      P (updater (current d key default))) (hdefault : P default) :
    ∀ k v, (k, v) ∈ d'.entries → P v := by
  rw [updateKey_eq h]
  intro k v hv
  rcases Dict.mem_set.mp hv with ⟨rfl, rfl⟩ | ⟨-, hv⟩
  · refine hcurrent ?_
    unfold current
    cases hget : d.get? k with
    | some v => exact hd k v (Dict.get?_eq_some.mp hget)
    | none => exact hdefault
  · exact hd k v hv

end UpdateKey

/-! ## Replacing one message -/

section ReplaceFirst

variable {α β : Type} {p : α → Bool} {f : α → α} {xs : List α}

lemma map_replaceFirst {g : α → β} (hg : ∀ x, g (f x) = g x) :
    (replaceFirst p f xs).map g = xs.map g := by
  induction xs with
  | nil => rfl
  | cons x xs ih =>
    unfold replaceFirst
    split_ifs
    · simp [hg]
    · simp [ih]

/-- Replacing twice, where the replacement is found again and replaced by itself. -/
lemma replaceFirst_replaceFirst (hp : ∀ x, p (f x) = p x) (hf : ∀ x, f (f x) = f x) :
    replaceFirst p f (replaceFirst p f xs) = replaceFirst p f xs := by
  induction xs with
  | nil => rfl
  | cons x xs ih =>
    by_cases hx : p x = true
    · simp [replaceFirst, hx, hp, hf]
    · simp [replaceFirst, hx, ih]

/-- Where at most one entry has `p`, the first is the one. -/
lemma replaceFirst_eq_map {id : α → β} {b : β} [DecidableEq β] (hnodup : (xs.map id).Nodup) :
    replaceFirst (fun x => decide (id x = b)) f xs = xs.map fun x => if id x = b then f x else x := by
  induction xs with
  | nil => rfl
  | cons x xs ih =>
    obtain ⟨hx, hnodup⟩ := List.nodup_cons.mp hnodup
    by_cases hid : id x = b
    · have hrest : (xs.map fun y => if id y = b then f y else y) = xs := by
        refine (List.map_congr_left fun y hy => ?_).trans (List.map_id _)
        rw [if_neg fun hy' => hx (List.mem_map.mpr ⟨y, hy, hy'.trans hid.symm⟩)]
        rfl
      simp [replaceFirst, hid, hrest]
    · simp [replaceFirst, hid, ih hnodup]

/-- Nothing is replaced where the entry is replaced by itself. -/
lemma replaceFirst_self (h : ∀ x ∈ xs, p x = true → f x = x) : replaceFirst p f xs = xs := by
  induction xs with
  | nil => rfl
  | cons x xs ih =>
    unfold replaceFirst
    split_ifs with hx
    · rw [h x List.mem_cons_self hx]
    · rw [ih fun y hy => h y (List.mem_cons_of_mem x hy)]

end ReplaceFirst

/-! ## Reactions on all copies -/

/-- The reactions of the pairs of one message, changed. -/
def reactPair (messageId : String) (updater : List ReactionGroup → List ReactionGroup) (p : Pair) :
    Pair := (p.1, if p.1 = messageId then updater p.2 else p.2)

section React

variable {messageId : String} {updater : List ReactionGroup → List ReactionGroup}

/-- The message with other reactions, if it is the one. -/
def reactIf (messageId : String) (updater : List ReactionGroup → List ReactionGroup) (m : Message) :
    Message := if m.id = messageId then m.react updater else m

lemma pair_reactIf (m : Message) :
    (reactIf messageId updater m).pair = reactPair messageId updater m.pair := by
  unfold reactIf reactPair Message.pair Message.react
  split_ifs <;> rfl

lemma reactIf_id (m : Message) : (reactIf messageId updater m).id = m.id := by
  unfold reactIf Message.react
  split_ifs <;> rfl

lemma updateReactions_eq {ms : List Message} (hnodup : (ms.map (·.id)).Nodup) :
    updateReactionsOnMessage ms messageId updater =
      if ms.any (·.id == messageId) then some (ms.map (reactIf messageId updater)) else none := by
  unfold updateReactionsOnMessage
  congr 2
  exact replaceFirst_eq_map (f := Message.react updater) hnodup

variable (messageId updater) in
lemma map_reactIf_of_not_any {ms : List Message} (h : ms.any (·.id == messageId) = false) :
    ms.map (reactIf messageId updater) = ms := by
  refine (List.map_congr_left fun m hm => ?_).trans (List.map_id _)
  have hne : ¬ m.id = messageId := by simpa using List.any_eq_false.mp h m hm
  rw [reactIf, if_neg hne, id]

variable (messageId updater) in
lemma ChannelMessages.react_messages {c : ChannelMessages}
    (hnodup : (c.messages.map (·.id)).Nodup) :
    (c.react messageId updater).messages = c.messages.map (reactIf messageId updater) := by
  unfold ChannelMessages.react
  rw [updateReactions_eq hnodup]
  by_cases hany : c.messages.any (·.id == messageId) = true
  · simp [hany]
  · simp only [hany, Bool.false_eq_true, if_false]
    exact (map_reactIf_of_not_any messageId updater (by simpa using hany)).symm

variable (messageId updater) in
lemma ThreadData.react_copies {t : ThreadData} (hnodup : (t.copies.map (·.id)).Nodup) :
    (t.react messageId updater).copies = t.copies.map (reactIf messageId updater) := by
  obtain ⟨parent, replies, loading, error⟩ := t
  have hreplies : (replies.map (·.id)).Nodup := by
    simp only [ThreadData.copies, List.map_append] at hnodup
    exact (List.nodup_append.mp hnodup).2.1
  unfold ThreadData.react
  simp only [updateReactions_eq hreplies]
  by_cases hany : replies.any (·.id == messageId) = true
  · simp only [hany, if_true, ThreadData.copies, List.map_append]
    congr 1
    cases parent with
    | none => rfl
    | some m =>
      obtain ⟨r, hr, hrid⟩ := List.any_eq_true.mp hany
      have hne : m.id ≠ messageId := by
        rintro rfl
        simp only [ThreadData.copies, Option.toList_some, List.singleton_append, List.map_cons,
          List.nodup_cons] at hnodup
        exact hnodup.1 (List.mem_map.mpr ⟨r, hr, eq_of_beq hrid⟩)
      simp [reactIf, hne]
  · have hrest := map_reactIf_of_not_any messageId updater (by simpa using hany)
    simp only [hany, Bool.false_eq_true, if_false]
    cases parent with
    | none => simp [ThreadData.copies, hrest]
    | some m =>
      by_cases hm : m.id = messageId
      · simp [hm, ThreadData.copies, hrest, reactIf]
      · simp [hm, ThreadData.copies, hrest, reactIf]

/-- Shown after every value of a dictionary changed the reactions of a message. -/
lemma shownIn_react {V : Type} {cs : V → List Message} {d : Dict V} {f : V → V} {p : Pair}
    (hcs : ∀ k v, (k, v) ∈ d.entries → cs (f v) = (cs v).map (reactIf messageId updater)) :
    ShownIn cs (d.mapValues f) p ↔
      ∃ q, ShownIn cs d q ∧ p = reactPair messageId updater q := by
  constructor
  · rintro ⟨k, v, hv, hp⟩
    obtain ⟨v₀, hv₀, rfl⟩ := Dict.mem_mapValues.mp hv
    rw [hcs k v₀ hv₀, List.map_map] at hp
    obtain ⟨m, hm, rfl⟩ := List.mem_map.mp hp
    exact ⟨m.pair, ⟨k, v₀, hv₀, List.mem_map.mpr ⟨m, hm, rfl⟩⟩, pair_reactIf m⟩
  · rintro ⟨q, ⟨k, v, hv, hq⟩, rfl⟩
    obtain ⟨m, hm, rfl⟩ := List.mem_map.mp hq
    refine ⟨k, f v, Dict.mem_mapValues.mpr ⟨v, hv, rfl⟩, ?_⟩
    rw [hcs k v hv, List.map_map]
    exact List.mem_map.mpr ⟨m, hm, pair_reactIf m⟩

/-- **A reaction reaches every copy of its message.** -/
theorem shows_handleReaction {s : StoreState} (hs : s.Unique) (p : Pair) :
    (handleReaction s messageId updater).Shows p ↔
      ∃ q, s.Shows q ∧ p = reactPair messageId updater q := by
  have hchannels := shownIn_react (p := p) fun k c hc =>
    ChannelMessages.react_messages messageId updater (hs.channels k c hc)
  have hthreads := shownIn_react (p := p) fun k t ht =>
    ThreadData.react_copies messageId updater (hs.threads k t ht)
  simp only [shows_iff, handleReaction]
  rw [hchannels, hthreads, ← exists_or]
  exact exists_congr fun q => or_and_right.symm

/-- A reaction leaves every list without repetitions. -/
lemma unique_handleReaction {s : StoreState} (hs : s.Unique) :
    (handleReaction s messageId updater).Unique := by
  refine ⟨fun k c hc => ?_, fun k t ht => ?_⟩
  · obtain ⟨c₀, hc₀, rfl⟩ := Dict.mem_mapValues.mp hc
    rw [ChannelMessages.react_messages messageId updater (hs.channels k c₀ hc₀), List.map_map]
    simpa only [Function.comp_def, reactIf_id] using hs.channels k c₀ hc₀
  · obtain ⟨t₀, ht₀, rfl⟩ := Dict.mem_mapValues.mp ht
    rw [ThreadData.react_copies messageId updater (hs.threads k t₀ ht₀), List.map_map]
    simpa only [Function.comp_def, reactIf_id] using hs.threads k t₀ ht₀

end React

end React
