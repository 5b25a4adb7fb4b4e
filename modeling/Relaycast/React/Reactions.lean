import Relaycast.React.Reducer

/-!
# Groups of reactions

A message shows its reactions in groups, one for each emoji, and each group has a count beside the
agents it lists.  An addition that finds the agent listed changes nothing, so additions keep the
count right.  A removal takes one off the count of the emoji whether or not it takes an agent off
the list; it keeps the count right where the agent is listed.
-/

namespace React

/-- Every group counts its agents, no agent occurs twice in a group, and no emoji twice. -/
structure WellGrouped (reactions : List ReactionGroup) : Prop where
  count : ∀ g ∈ reactions, g.count = g.agents.length
  agents : ∀ g ∈ reactions, g.agents.Nodup
  emojis : (reactions.map (·.emoji)).Nodup

/-- The agent is listed under the emoji. -/
def Listed (reactions : List ReactionGroup) (emoji agentName : String) : Prop :=
  ∃ g ∈ reactions, g.emoji = emoji ∧ agentName ∈ g.agents

/-- The removal finds its agent in every group of the emoji. -/
def NotStray (reactions : List ReactionGroup) (emoji agentName : String) : Prop :=
  ∀ g ∈ reactions, g.emoji = emoji → agentName ∈ g.agents

section Groups

variable {reactions : List ReactionGroup} {emoji agentName emoji' agentName' : String}

/-- Groups that keep their emojis keep them distinct. -/
lemma emojis_map {f : ReactionGroup → ReactionGroup} (hf : ∀ g, (f g).emoji = g.emoji) :
    (reactions.map f).map (·.emoji) = reactions.map (·.emoji) := by
  rw [List.map_map]
  exact List.map_congr_left fun g _ => hf g

/-- The group of an emoji, with one more agent. -/
def joinGroup (emoji agentName : String) (g : ReactionGroup) : ReactionGroup :=
  if g.emoji = emoji then { g with count := g.count + 1, agents := g.agents ++ [agentName] } else g

lemma joinGroup_emoji (g : ReactionGroup) : (joinGroup emoji agentName g).emoji = g.emoji := by
  unfold joinGroup
  split_ifs <;> rfl

/-- What an addition does. -/
lemma addReaction_cases (reactions : List ReactionGroup) (emoji agentName : String) :
    (∃ g ∈ reactions, g.emoji = emoji ∧ agentName ∈ g.agents ∧
      addReaction emoji agentName reactions = reactions) ∨
    (∃ g ∈ reactions, g.emoji = emoji ∧ agentName ∉ g.agents ∧
      addReaction emoji agentName reactions = reactions.map (joinGroup emoji agentName)) ∨
    ((∀ g ∈ reactions, g.emoji ≠ emoji) ∧
      addReaction emoji agentName reactions = reactions ++ [⟨emoji, 1, [agentName]⟩]) := by
  unfold addReaction
  cases hfind : reactions.find? (·.emoji == emoji) with
  | none =>
    refine .inr (.inr ⟨fun g hg => ?_, rfl⟩)
    simpa using List.find?_eq_none.mp hfind g hg
  | some g =>
    have hg := List.mem_of_find?_eq_some hfind
    have hemoji : g.emoji = emoji := by simpa using List.find?_some hfind
    by_cases hmem : agentName ∈ g.agents
    · exact .inl ⟨g, hg, hemoji, hmem, by simp [hmem]⟩
    · exact .inr (.inl ⟨g, hg, hemoji, hmem, by simp [hmem, joinGroup]⟩)

/-- The one group of an emoji. -/
lemma WellGrouped.eq_of_emoji (h : WellGrouped reactions) {g g' : ReactionGroup}
    (hg : g ∈ reactions) (hg' : g' ∈ reactions) (heq : g.emoji = g'.emoji) : g = g' :=
  List.inj_on_of_nodup_map h.emojis hg hg' heq

lemma WellGrouped.add (h : WellGrouped reactions) :
    WellGrouped (addReaction emoji agentName reactions) := by
  rcases addReaction_cases reactions emoji agentName with ⟨g, -, -, -, heq⟩ |
    ⟨g, hg, hemoji, hnot, heq⟩ | ⟨hnone, heq⟩ <;> rw [heq]
  · exact h
  · refine ⟨fun g' hg' => ?_, fun g' hg' => ?_, ?_⟩
    · obtain ⟨g₀, hg₀, rfl⟩ := List.mem_map.mp hg'
      unfold joinGroup
      split_ifs
      · simp [h.count g₀ hg₀]
      · exact h.count g₀ hg₀
    · obtain ⟨g₀, hg₀, rfl⟩ := List.mem_map.mp hg'
      unfold joinGroup
      split_ifs with hsame
      · obtain rfl := h.eq_of_emoji hg hg₀ (hemoji.trans hsame.symm)
        exact (h.agents g hg).append (List.nodup_singleton agentName) (by simpa using hnot)
      · exact h.agents g₀ hg₀
    · rw [emojis_map joinGroup_emoji]
      exact h.emojis
  · refine ⟨fun g' hg' => ?_, fun g' hg' => ?_, ?_⟩
    · rcases List.mem_append.mp hg' with hg' | hg'
      · exact h.count g' hg'
      · obtain rfl := List.mem_singleton.mp hg'
        rfl
    · rcases List.mem_append.mp hg' with hg' | hg'
      · exact h.agents g' hg'
      · obtain rfl := List.mem_singleton.mp hg'
        exact List.nodup_singleton agentName
    · rw [List.map_append]
      refine h.emojis.append (List.nodup_singleton emoji) ?_
      simpa using fun g hg => hnone g hg

/-- Who is listed after an addition. -/
lemma listed_add :
    Listed (addReaction emoji agentName reactions) emoji' agentName' ↔
      Listed reactions emoji' agentName' ∨ (emoji' = emoji ∧ agentName' = agentName) := by
  rcases addReaction_cases reactions emoji agentName with ⟨g, hg, hemoji, hmem, heq⟩ |
    ⟨g, hg, hemoji, hnot, heq⟩ | ⟨hnone, heq⟩ <;> rw [heq]
  · refine ⟨.inl, fun hor => hor.elim id ?_⟩
    rintro ⟨rfl, rfl⟩
    exact ⟨g, hg, hemoji, hmem⟩
  · constructor
    · rintro ⟨g', hg', hemoji', hmem'⟩
      obtain ⟨g₀, hg₀, rfl⟩ := List.mem_map.mp hg'
      unfold joinGroup at hemoji' hmem'
      split_ifs at hemoji' hmem' with hsame
      · rcases List.mem_append.mp hmem' with hmem' | hmem'
        · exact .inl ⟨g₀, hg₀, hemoji', hmem'⟩
        · exact .inr ⟨hemoji'.symm.trans hsame, List.mem_singleton.mp hmem'⟩
      · exact .inl ⟨g₀, hg₀, hemoji', hmem'⟩
    · rintro (⟨g₀, hg₀, hemoji₀, hmem₀⟩ | ⟨rfl, rfl⟩)
      · refine ⟨joinGroup emoji agentName g₀, List.mem_map.mpr ⟨g₀, hg₀, rfl⟩, ?_, ?_⟩
        · rw [joinGroup_emoji, hemoji₀]
        · unfold joinGroup
          split_ifs
          · exact List.mem_append_left _ hmem₀
          · exact hmem₀
      · refine ⟨joinGroup emoji' agentName' g, List.mem_map.mpr ⟨g, hg, rfl⟩, ?_, ?_⟩
        · rw [joinGroup_emoji, hemoji]
        · simp [joinGroup, hemoji]
  · constructor
    · rintro ⟨g', hg', hemoji', hmem'⟩
      rcases List.mem_append.mp hg' with hg' | hg'
      · exact .inl ⟨g', hg', hemoji', hmem'⟩
      · obtain rfl := List.mem_singleton.mp hg'
        exact .inr ⟨hemoji'.symm, List.mem_singleton.mp hmem'⟩
    · rintro (⟨g₀, hg₀, hemoji₀, hmem₀⟩ | ⟨rfl, rfl⟩)
      · exact ⟨g₀, List.mem_append_left _ hg₀, hemoji₀, hmem₀⟩
      · exact ⟨_, List.mem_append_right _ (List.mem_singleton_self _), rfl,
          List.mem_singleton_self _⟩

/-- The group of an emoji, with one agent less. -/
def leaveGroup (emoji agentName : String) (g : ReactionGroup) : ReactionGroup :=
  if g.emoji = emoji then
    { g with count := g.count - 1, agents := g.agents.filter (· != agentName) }
  else g

lemma leaveGroup_emoji (g : ReactionGroup) : (leaveGroup emoji agentName g).emoji = g.emoji := by
  unfold leaveGroup
  split_ifs <;> rfl

lemma removeReaction_eq : removeReaction emoji agentName reactions =
    (reactions.map (leaveGroup emoji agentName)).filter fun r => decide (0 < r.count) := rfl

/-- A group that loses an agent it lists still counts its agents. -/
lemma leaveGroup_count {g : ReactionGroup} (emoji agentName : String) (hcount : g.count = g.agents.length)
    (hnodup : g.agents.Nodup) (hmem : g.emoji = emoji → agentName ∈ g.agents) :
    (leaveGroup emoji agentName g).count = (leaveGroup emoji agentName g).agents.length := by
  unfold leaveGroup
  split_ifs with hsame
  · have herase : g.agents.filter (· != agentName) = g.agents.erase agentName :=
      (hnodup.erase_eq_filter agentName).symm
    simp only [herase, List.length_erase_of_mem (hmem hsame), hcount]
  · exact hcount

lemma WellGrouped.remove (h : WellGrouped reactions) (hstray : NotStray reactions emoji agentName) :
    WellGrouped (removeReaction emoji agentName reactions) := by
  rw [removeReaction_eq]
  refine ⟨fun g hg => ?_, fun g hg => ?_, ?_⟩
  · obtain ⟨g₀, hg₀, rfl⟩ := List.mem_map.mp (List.mem_filter.mp hg).1
    exact leaveGroup_count emoji agentName (h.count g₀ hg₀) (h.agents g₀ hg₀) (hstray g₀ hg₀)
  · obtain ⟨g₀, hg₀, rfl⟩ := List.mem_map.mp (List.mem_filter.mp hg).1
    unfold leaveGroup
    split_ifs
    · exact (h.agents g₀ hg₀).filter _
    · exact h.agents g₀ hg₀
  · refine List.Nodup.sublist (List.Sublist.map _ List.filter_sublist) ?_
    rw [emojis_map leaveGroup_emoji]
    exact h.emojis

/-- Who is listed after a removal. -/
lemma listed_remove (h : WellGrouped reactions) (hstray : NotStray reactions emoji agentName) :
    Listed (removeReaction emoji agentName reactions) emoji' agentName' ↔
      Listed reactions emoji' agentName' ∧ ¬ (emoji' = emoji ∧ agentName' = agentName) := by
  rw [removeReaction_eq]
  constructor
  · rintro ⟨g, hg, hemoji, hmem⟩
    obtain ⟨g₀, hg₀, rfl⟩ := List.mem_map.mp (List.mem_filter.mp hg).1
    unfold leaveGroup at hemoji hmem
    split_ifs at hemoji hmem with hsame
    · obtain ⟨hmem, hne⟩ := List.mem_filter.mp hmem
      refine ⟨⟨g₀, hg₀, hemoji, hmem⟩, ?_⟩
      rintro ⟨-, rfl⟩
      simp at hne
    · refine ⟨⟨g₀, hg₀, hemoji, hmem⟩, ?_⟩
      rintro ⟨rfl, -⟩
      exact hsame hemoji
  · rintro ⟨⟨g₀, hg₀, hemoji, hmem⟩, hne⟩
    have hstays : agentName' ∈ (leaveGroup emoji agentName g₀).agents := by
      unfold leaveGroup
      split_ifs with hsame
      · refine List.mem_filter.mpr ⟨hmem, ?_⟩
        simpa using fun heq => hne ⟨hemoji.symm.trans hsame, heq⟩
      · exact hmem
    have hcount := leaveGroup_count emoji agentName (h.count g₀ hg₀)
      (h.agents g₀ hg₀) (hstray g₀ hg₀)
    have hpos := List.length_pos_of_mem hstays
    refine ⟨leaveGroup emoji agentName g₀, List.mem_filter.mpr ⟨List.mem_map.mpr ⟨g₀, hg₀, rfl⟩, ?_⟩,
      ?_, hstays⟩
    · exact decide_eq_true (by omega)
    · rw [leaveGroup_emoji, hemoji]

/-- Adding twice. -/
lemma addReaction_again (h : WellGrouped reactions) :
    addReaction emoji agentName (addReaction emoji agentName reactions) =
      addReaction emoji agentName reactions := by
  have hlisted : Listed (addReaction emoji agentName reactions) emoji agentName :=
    listed_add.mpr (.inr ⟨rfl, rfl⟩)
  obtain ⟨g, hg, hemoji, hmem⟩ := hlisted
  rcases addReaction_cases (addReaction emoji agentName reactions) emoji agentName with
    ⟨g', -, -, -, heq⟩ | ⟨g', hg', hemoji', hnot, -⟩ | ⟨hnone, -⟩
  · exact heq
  · exact absurd ((h.add).eq_of_emoji hg hg' (hemoji.trans hemoji'.symm) ▸ hmem) hnot
  · exact absurd hemoji (hnone g hg)

/-- Removing twice, where the second removal finds its agent or no group at all: there is none. -/
lemma removeReaction_again (h : WellGrouped reactions) (hstray : NotStray reactions emoji agentName)
    (hagain : NotStray (removeReaction emoji agentName reactions) emoji agentName) :
    removeReaction emoji agentName (removeReaction emoji agentName reactions) =
      removeReaction emoji agentName reactions := by
  have hnone : ∀ g ∈ removeReaction emoji agentName reactions, g.emoji ≠ emoji := by
    intro g hg hemoji
    have hlisted := (listed_remove h hstray).mp ⟨g, hg, hemoji, hagain g hg hemoji⟩
    exact hlisted.2 ⟨rfl, rfl⟩
  have hpos : ∀ g ∈ removeReaction emoji agentName reactions, 0 < g.count := by
    intro g hg
    rw [removeReaction_eq] at hg
    exact of_decide_eq_true (List.mem_filter.mp hg).2
  generalize removeReaction emoji agentName reactions = left at hnone hpos
  rw [removeReaction_eq]
  have hmap : left.map (leaveGroup emoji agentName) = left := by
    refine (List.map_congr_left fun g hg => ?_).trans (List.map_id _)
    rw [leaveGroup, if_neg (hnone g hg), id]
  rw [hmap]
  exact List.filter_eq_self.mpr fun g hg => decide_eq_true (hpos g hg)

end Groups

end React
