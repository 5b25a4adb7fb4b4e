import Relaycast.Inbox.UnreadDms

/-!
# The last message of an unread conversation

The inbox reports for a conversation the message whose id is the greatest text of the channel
(`lastMessage_reported`).  The greatest number among the ids is the greatest text exactly if no
shorter id comes behind it as a text (`ShorterBefore`): across a new digit `99…9` does.
-/

namespace Inbox

open Relational Coding Script

variable {db : Db} {workspaceId agentId channelId : String} {toISOString : ℕ → String}

/-- The messages of a channel. -/
def inChannel (db : Db) (channelId : String) : List Message :=
  db.messages.select (·.channelId = channelId)

@[simp] lemma mem_inChannel {m : Message} :
    m ∈ inChannel db channelId ↔ m ∈ db.messages ∧ m.channelId = channelId := by
  simp [inChannel]

/-- A message is determined by its id. -/
lemma message_eq {m m' : Message} (hm : m ∈ db.messages) (hm' : m' ∈ db.messages)
    (h : m.id = m'.id) : m = m' :=
  Table.eq_of_clash hm hm' (beq_iff_eq.mpr h)

/-! ## What is counted -/

lemma mem_unreadMessages {dc : DmConversation} {m : Message}
    (h : m ∈ unreadMessages db agentId dc) : m ∈ inChannel db dc.channelId := by
  obtain ⟨dp, -, hm⟩ := List.mem_flatMap.mp h
  obtain ⟨hm, hwhere⟩ := Table.mem_select.mp hm
  simp only [Bool.and_eq_true, beq_iff_eq] at hwhere
  exact mem_inChannel.mpr ⟨hm, hwhere.1.1⟩

/-- A row of the first statement is that of a conversation with something unread. -/
lemma mem_unreadDmRows {row : UnreadDmRow} (h : row ∈ unreadDmRows db agentId workspaceId) :
    ∃ dc ∈ db.dmConversations, row.conversationId = dc.id ∧ row.channelId = dc.channelId ∧
      unreadMessages db agentId dc ≠ [] := by
  obtain ⟨dc, hdc, hrow⟩ := List.mem_filterMap.mp h
  simp only [Option.ite_none_right_eq_some, Option.some.injEq] at hrow
  obtain ⟨⟨-, hlen⟩, rfl⟩ := hrow
  exact ⟨dc, hdc, rfl, rfl, List.ne_nil_of_length_pos hlen⟩

/-! ## The greatest text of a channel -/

/-- The message with the greatest text for an id in its channel. -/
structure TextGreatest (db : Db) (channelId : String) (m : Message) : Prop where
  mem : m ∈ inChannel db channelId
  le : ∀ m' ∈ inChannel db channelId, m'.id ≤ m.id

lemma TextGreatest.eq {m m' : Message} (h : TextGreatest db channelId m)
    (h' : TextGreatest db channelId m') : m = m' :=
  message_eq (mem_inChannel.mp h.mem).1 (mem_inChannel.mp h'.mem).1
    (le_antisymm (h'.le m h.mem) (h.le m' h'.mem))

/-- A channel of the second statement, and its greatest text. -/
def Latest (db : Db) (channelId : String) (row : String × Option Text) : Prop :=
  row.1 = channelId ∧ ∃ m, TextGreatest db channelId m ∧ row.2 = some m.id

/-- The greatest text of a channel with messages. -/
lemma sqlMax_inChannel (h : inChannel db channelId ≠ []) :
    ∃ m, TextGreatest db channelId m ∧
      sqlMax ((inChannel db channelId).map fun m => some m.id) = some m.id := by
  have hids : ((inChannel db channelId).map fun m => some m.id).filterMap id =
      (inChannel db channelId).map (·.id) := by
    rw [List.filterMap_map]
    exact congrFun List.filterMap_eq_map _
  rw [sqlMax, hids]
  obtain ⟨greatest, hmax⟩ : ∃ greatest,
      ((inChannel db channelId).map (·.id)).max? = some greatest := by
    rw [← Option.isSome_iff_exists, List.isSome_max?_iff]
    simpa using h
  obtain ⟨hin, hle⟩ := List.max?_eq_some_iff.mp hmax
  obtain ⟨m, hm, rfl⟩ := List.mem_map.mp hin
  exact ⟨m, ⟨hm, fun m' hm' => hle _ (List.mem_map_of_mem hm')⟩, hmax⟩

/-- The second statement finds for each channel with messages the greatest text. -/
lemma mem_latestMessageIds {ids : List String} {row : String × Option Text} :
    row ∈ latestMessageIds db ids ↔ ∃ channelId ∈ ids, Latest db channelId row := by
  have hgroup : ∀ channelId ∈ ids, (db.messages.select fun m => ids.contains m.channelId).filter
      (·.channelId = channelId) = inChannel db channelId := by
    intro channelId hin
    rw [inChannel, Table.select, Table.select, List.filter_filter]
    refine List.filter_congr fun m _ => ?_
    by_cases hm : m.channelId = channelId <;> simp [hm, hin]
  rw [latestMessageIds, List.mem_map]
  constructor
  · rintro ⟨channelId, hkey, rfl⟩
    rw [List.mem_dedup, List.mem_map] at hkey
    obtain ⟨m, hm, rfl⟩ := hkey
    obtain ⟨hm, hin⟩ := Table.mem_select.mp hm
    have hin : m.channelId ∈ ids := by simpa using hin
    obtain ⟨greatest, hgreatest, hmax⟩ :=
      sqlMax_inChannel (List.ne_nil_of_mem (mem_inChannel.mpr ⟨hm, rfl⟩))
    exact ⟨m.channelId, hin, rfl, greatest, hgreatest, by rw [hgroup _ hin, hmax]⟩
  · rintro ⟨channelId, hin, hfst, m, hgreatest, hsnd⟩
    obtain ⟨hm, hchannel⟩ := mem_inChannel.mp hgreatest.mem
    refine ⟨channelId, ?_, ?_⟩
    · rw [List.mem_dedup, List.mem_map]
      exact ⟨m, Table.mem_select.mpr ⟨hm, by simpa [hchannel] using hin⟩, hchannel⟩
    · obtain ⟨m', hgreatest', hmax⟩ := sqlMax_inChannel (List.ne_nil_of_mem hgreatest.mem)
      rw [hgroup channelId hin, hmax, hgreatest'.eq hgreatest, ← hsnd, ← hfst]

/-! ## What is reported -/

lemma mem_messagesWithIds {ids : List Text} {m : Message} :
    m ∈ messagesWithIds db ids ↔ ∃ id ∈ ids, m ∈ db.messages ∧ m.id = id := by
  simp [messagesWithIds, and_comm]

/-- An entry that is the only one with its key. -/
lemma mapGet_eq {α β : Type} [DecidableEq α] {entries : List (α × β)} {k : α} {v : β}
    (hin : (k, v) ∈ entries) (hall : ∀ e ∈ entries, e.1 = k → e.2 = v) :
    mapGet entries k = some v := by
  have hne : entries.filter (fun e => e.1 = k) ≠ [] :=
    List.ne_nil_of_mem (List.mem_filter.mpr ⟨hin, by simp⟩)
  rw [mapGet, List.getLast?_eq_getLast_of_ne_nil hne, Option.map_some, Option.some.injEq]
  obtain ⟨hmem, hkey⟩ := List.mem_filter.mp (List.getLast_mem hne)
  exact hall _ hmem (by simpa using hkey)

/-- The inbox reports the message with the greatest text for an id. -/
lemma lastMessage_reported (hids : ∀ m ∈ db.messages, m.id ≠ []) {u : UnreadDm}
    (h : u ∈ unreadDms toISOString db workspaceId agentId) :
    ∃ dc ∈ db.dmConversations, u.conversationId = dc.id ∧ ∃ m, TextGreatest db dc.channelId m ∧
      u.lastMessage = some ⟨m.id, m.body, toISOString m.createdAt⟩ := by
  obtain ⟨row, hrow, rfl⟩ := List.mem_map.mp h
  obtain ⟨dc, hdc, hid, hchannel, hunread⟩ := mem_unreadDmRows hrow
  obtain ⟨m₀, hm₀⟩ := List.exists_mem_of_ne_nil _ hunread
  obtain ⟨m, hgreatest, -⟩ := sqlMax_inChannel (List.ne_nil_of_mem (mem_unreadMessages hm₀))
  obtain ⟨hm, hmchannel⟩ := mem_inChannel.mp hgreatest.mem
  refine ⟨dc, hdc, hid, m, hgreatest, ?_⟩
  set rows := unreadDmRows db agentId workspaceId
  set latest := queryInChunks (rows.map (·.channelId)) (latestMessageIds db) with hlatest
  have hmemLatest : ∀ found, found ∈ latest ↔
      ∃ channelId ∈ rows.map (·.channelId), Latest db channelId found := fun found =>
    mem_inSlices (by decide) fun _ _ => mem_latestMessageIds
  have hmemLast : ∀ m', m' ∈ queryInChunks (latest.filterMap fun row => row.2.filter (· ≠ []))
      (messagesWithIds db) ↔ ∃ id ∈ latest.filterMap fun row => row.2.filter (· ≠ []),
        m' ∈ db.messages ∧ m'.id = id := fun m' =>
    mem_inSlices (by decide) fun _ _ => mem_messagesWithIds
  have hget : mapGet ((queryInChunks (latest.filterMap fun row => row.2.filter (· ≠ []))
      (messagesWithIds db)).map fun m => (m.channelId, m)) row.channelId = some m := by
    apply mapGet_eq
    · rw [List.mem_map]
      refine ⟨m, (hmemLast m).mpr ⟨m.id, ?_, hm, rfl⟩, by rw [hmchannel, hchannel]⟩
      rw [List.mem_filterMap]
      refine ⟨(dc.channelId, some m.id), (hmemLatest _).mpr ?_, by simp [hids m hm]⟩
      exact ⟨dc.channelId, List.mem_map.mpr ⟨row, hrow, hchannel⟩, rfl, m, hgreatest, rfl⟩
    · -- an id found for another channel is not that of a message of this one
      intro e he hkey
      obtain ⟨m', hm', rfl⟩ := List.mem_map.mp he
      obtain ⟨id, hid', hm', rfl⟩ := (hmemLast m').mp hm'
      obtain ⟨found, hfound, hfilter⟩ := List.mem_filterMap.mp hid'
      obtain ⟨channelId, -, -, m'', hgreatest', hsome⟩ := (hmemLatest found).mp hfound
      rw [hsome, Option.filter_eq_some_iff] at hfilter
      obtain ⟨hm'', hchannel'⟩ := mem_inChannel.mp hgreatest'.mem
      have heq : m'' = m' := message_eq hm'' hm' (Option.some.inj hfilter.1)
      subst heq
      have hsame : channelId = dc.channelId := hchannel'.symm.trans (hkey.trans hchannel)
      exact (hsame ▸ hgreatest').eq hgreatest
  simp only [hget, Option.map_some]

/-! ## The greatest number -/

/-- The message with the greatest number for an id in its channel. -/
structure NumberGreatest (db : Db) (channelId : String) (m : Message) : Prop where
  mem : m ∈ inChannel db channelId
  le : ∀ m' ∈ inChannel db channelId, numeral 10 m'.id ≤ numeral 10 m.id

/-- No id of the channel that is shorter than the one with the greatest number comes behind it as a
text. -/
def ShorterBefore (db : Db) (channelId : String) : Prop :=
  ∀ m, NumberGreatest db channelId m →
    ∀ m' ∈ inChannel db channelId, m'.id.length < m.id.length → m'.id < m.id

lemma exists_numberGreatest (h : inChannel db channelId ≠ []) :
    ∃ m, NumberGreatest db channelId m := by
  obtain ⟨n, hmax⟩ : ∃ n, ((inChannel db channelId).map fun m => numeral 10 m.id).max? = some n := by
    rw [← Option.isSome_iff_exists, List.isSome_max?_iff]
    simpa using h
  obtain ⟨hin, hle⟩ := List.max?_eq_some_iff.mp hmax
  obtain ⟨m, hm, rfl⟩ := List.mem_map.mp hin
  exact ⟨m, hm, fun m' hm' => hle _ (List.mem_map.mpr ⟨m', hm', rfl⟩)⟩

/-- The greatest text is the greatest number exactly if the shorter ids come before that. -/
lemma numberGreatest_iff_shorterBefore (hids : ∀ m ∈ db.messages, IsDecimal m.id) {m : Message}
    (h : TextGreatest db channelId m) :
    NumberGreatest db channelId m ↔ ShorterBefore db channelId := by
  have hdecimal : ∀ m ∈ inChannel db channelId, IsDecimal m.id := fun m hm =>
    hids m (mem_inChannel.mp hm).1
  constructor
  · intro hnumber m' hm' shorter hin hlen
    have hsame : m'.id = m.id := (hdecimal m' hm'.mem).eq_of_numeral_eq (hdecimal m h.mem)
      (le_antisymm (hnumber.le m' hm'.mem) (hm'.le m h.mem))
    rw [hsame] at hlen ⊢
    exact lt_of_le_of_ne (h.le shorter hin) fun heq => by
      rw [heq] at hlen
      omega
  · intro hbefore
    obtain ⟨m', hm'⟩ := exists_numberGreatest (List.ne_nil_of_mem h.mem)
    rcases Nat.eq_or_lt_of_le (hm'.le m h.mem) with heq | hlt
    · have hsame : m = m' := message_eq (mem_inChannel.mp h.mem).1 (mem_inChannel.mp hm'.mem).1
        ((hdecimal m h.mem).eq_of_numeral_eq (hdecimal m' hm'.mem) heq)
      exact hsame ▸ hm'
    · have hless : m.id < m'.id := by
        rcases ((hdecimal m h.mem).shortlex_iff (hdecimal m' hm'.mem)).mpr hlt with hlen | ⟨-, hless⟩
        · exact hbefore m' hm' m h.mem hlen
        · exact hless
      exact absurd (h.le m' hm'.mem) (not_le.mpr hless)

/-- The entry of a conversation reports the message with the greatest id, and counts none above it.
-/
structure ReportsLatest (db : Db) (agentId : String) (dc : DmConversation) (u : UnreadDm) :
    Prop where
  latest : ∃ m last, NumberGreatest db dc.channelId m ∧ u.lastMessage = some last ∧ last.id = m.id
  unread : ∀ m ∈ unreadMessages db agentId dc, ∃ last, u.lastMessage = some last ∧
    numeral 10 m.id ≤ numeral 10 last.id

/-- Whatever the messages and the cursors are, the entry of a conversation reports the message with
the greatest id exactly if no shorter id of its channel comes behind that one as a text. -/
theorem reportsLatest_iff (toISOString : ℕ → String) (db : Db) (workspaceId agentId : String)
    (hids : ∀ m ∈ db.messages, IsDecimal m.id) (u : UnreadDm)
    (hu : u ∈ unreadDms toISOString db workspaceId agentId) (dc : DmConversation)
    (hdc : dc ∈ db.dmConversations) (hid : u.conversationId = dc.id) :
    ReportsLatest db agentId dc u ↔ ShorterBefore db dc.channelId := by
  obtain ⟨dc', hdc', hid', m, hgreatest, hlast⟩ :=
    lastMessage_reported (fun m hm => (hids m hm).nonempty) hu
  have hsame : dc' = dc := Table.eq_of_clash hdc' hdc (beq_iff_eq.mpr (hid'.symm.trans hid))
  subst hsame
  have hiff := numberGreatest_iff_shorterBefore hids hgreatest
  constructor
  · rintro ⟨⟨m', last, hnumber, hlast', hlastId⟩, -⟩
    rw [hlast, Option.some.injEq] at hlast'
    have heq : m = m' := message_eq (mem_inChannel.mp hgreatest.mem).1
      (mem_inChannel.mp hnumber.mem).1 (by rw [← hlastId, ← hlast'])
    exact hiff.mp (heq ▸ hnumber)
  · intro hbefore
    have hnumber := hiff.mpr hbefore
    exact ⟨⟨m, _, hnumber, hlast, rfl⟩, fun m' hm' =>
      ⟨_, hlast, hnumber.le m' (mem_unreadMessages hm')⟩⟩

/-! ## Across a new digit -/

/-- Two messages to one agent, and nothing read. -/
def twoMessages (first second : String) : Db where
  messages := (Table.empty.insertOrIgnore ⟨first.toList, "channel", "sender", "first", 1⟩)
    |>.insertOrIgnore ⟨second.toList, "channel", "sender", "second", 2⟩
  dmConversations := Table.empty.insertOrIgnore ⟨"dm", "workspace", "channel"⟩
  dmParticipants := Table.empty.insertOrIgnore ⟨"dm", "reader", none, none⟩
  agents := Table.empty

/-- The entry that is reported for them. -/
def reportOf (last text : String) : UnreadDm :=
  ⟨"dm", "unknown", 2, some ⟨last.toList, text, "now"⟩⟩

/-- Of ids of one length the later message is reported. -/
theorem reportsLatest_iff_sameLength :
    ReportsLatest (twoMessages "10" "11") "reader" ⟨"dm", "workspace", "channel"⟩
        (reportOf "11" "second") ↔ ShorterBefore (twoMessages "10" "11") "channel" := by
  refine reportsLatest_iff (fun _ => "now") (twoMessages "10" "11") "workspace" "reader" ?_
    (reportOf "11" "second") (by decide +kernel) ⟨"dm", "workspace", "channel"⟩
    (Table.mem_def.mpr (by decide +kernel)) rfl
  intro m hm
  have hids : m.id = Nat.toDigits 10 10 ∨ m.id = Nat.toDigits 10 11 := by
    rcases Table.mem_insertOrIgnore hm with hm | ⟨rfl, -⟩
    · rcases Table.mem_insertOrIgnore hm with hm | ⟨rfl, -⟩
      · exact absurd hm (Table.not_mem_empty m)
      · exact .inl (by decide)
    · exact .inr (by decide)
  rcases hids with h | h <;> rw [h] <;> exact isDecimal_toDigits _

/-- The first message has the last id of seventeen digits and the second the first of eighteen: the
first is reported as the last. -/
theorem not_reportsLatest_newDigit :
    reportOf "99999999999999999" "first" ∈ unreadDms (fun _ => "now")
        (twoMessages "99999999999999999" "100000000000000000") "workspace" "reader" ∧
      ¬ ReportsLatest (twoMessages "99999999999999999" "100000000000000000") "reader"
        ⟨"dm", "workspace", "channel"⟩ (reportOf "99999999999999999" "first") := by
  refine ⟨by decide +kernel, fun ⟨⟨m, last, hnumber, hlast, hid⟩, _⟩ => ?_⟩
  have hsecond : (⟨"100000000000000000".toList, "channel", "sender", "second", 2⟩ : Message) ∈
      inChannel (twoMessages "99999999999999999" "100000000000000000") "channel" := by
    decide +kernel
  have hle := hnumber.le _ hsecond
  rw [← hid, ← Option.some.inj hlast] at hle
  exact absurd hle (by decide +kernel)

end Inbox
