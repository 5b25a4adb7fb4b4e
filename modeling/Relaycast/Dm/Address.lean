import Relaycast.Relational.Table
import Mathlib.Data.String.Basic

/-!
# Addresses of agents

The address of an agent is its name, an `@` and the machine it is on.  Names and machines may
contain an `@` themselves, so an address has as many readings as it has separators
(`mem_addressSplits`).

The machine that is published for a node is one that the node is known by
(`machineMatches_publishedMachine`), so the address of an agent always has a reading that finds it.
Other readings may find others; then the address is ambiguous.  None of this holds of an agent
without a name, whose address has no reading at all.
-/

namespace Dm

/-! ## The code -/

abbrev Text := List Char

/-- `DIRECT_MACHINE`. -/
def DIRECT_MACHINE : Text := "direct".toList

/-- A reading of an address. -/
structure AgentAddress where
  agent : Text
  machine : Text
  deriving DecidableEq

/-- The columns of the node of an agent. -/
structure AddressNode where
  name : Text
  role : String
  machineId : Option Text
  deriving DecidableEq

/-- The errors with a code. -/
structure CodedError where
  message : String
  code : String
  status : ℕ
  deriving DecidableEq

/-- `addressSplits`: a reading for every separator with something on both sides of it. -/
def addressSplits (address : Text) : List AgentAddress :=
  (List.range address.length).filterMap fun sep =>
    if address[sep]? = some '@' ∧ 0 < sep ∧ sep < address.length - 1 then
      some ⟨address.take sep, address.drop (sep + 1)⟩
    else none

/-- The identifiers of a broker that may stand in an address. -/
def usable (node : AddressNode) : List Text :=
  (node.name :: node.machineId.toList).filter fun id => id ≠ [] ∧ id ≠ DIRECT_MACHINE

/-- The machine in the address of an agent on the node. -/
def publishedMachine (node : AddressNode) : Option Text :=
  if node.role = "direct" then
    some ((node.machineId.filter fun id => id ≠ [] ∧ '@' ∉ id).getD DIRECT_MACHINE)
  else ((usable node).find? fun id => '@' ∉ id).or (usable node).head?

/-- `formatAgentAddress`. -/
def formatAgentAddress (agentName : Text) (node : Option AddressNode) : Option Text :=
  (node.bind publishedMachine).map fun machine => agentName ++ '@' :: machine

/-- `machineMatches`. -/
def machineMatches (machine : Text) (node : Option AddressNode) : Bool :=
  match node with
  | none => false
  | some node =>
    if node.role = "direct" then machine = DIRECT_MACHINE ∨ some machine = node.machineId
    else if machine = DIRECT_MACHINE then false
    else machine = node.name ∨ some machine = node.machineId

def invalidAddress : CodedError :=
  ⟨"Address must be of the form \"agent@machine\"", "invalid_address", 400⟩

def ambiguousAddress (address : Text) : CodedError :=
  ⟨"Address \"" ++ String.ofList address ++ "\" matches more than one agent", "ambiguous_address",
    400⟩

/-- `addressNotFound`. -/
def addressNotFound (address : Text) : CodedError :=
  ⟨"No agent at address \"" ++ String.ofList address ++ "\"", "address_not_found", 404⟩

/-- `requireAgentAddress`. -/
def requireAgentAddress (address : Text) : Except CodedError (List AgentAddress) :=
  match addressSplits address with
  | [] => .error invalidAddress
  | splits => .ok splits

/-- An agent with the node it is on. -/
structure Candidate where
  id : String
  name : Text
  status : String
  node : Option AddressNode
  deriving DecidableEq

namespace Candidate

def live (c : Candidate) : Bool := c.status ≠ "released"

/-- A live agent that one of the readings names, on the machine that the reading names. -/
def isNamedBy (c : Candidate) (splits : List AgentAddress) : Bool :=
  c.live && splits.any fun split => split.agent = c.name && machineMatches split.machine c.node

end Candidate

/-- `selectAddressedRecipient`. -/
def selectAddressedRecipient (address : Text) (candidates : List Candidate) :
    Except CodedError Candidate := do
  let splits ← requireAgentAddress address
  match candidates.filter fun c => c.isNamedBy splits with
  | _ :: _ :: _ => throw (ambiguousAddress address)
  | [] => throw (addressNotFound address)
  | [c] => pure c

/-- The agents of a workspace.  The names of live agents differ. -/
structure Roster where
  agents : List Candidate
  unique : ((agents.filter (·.live)).map (·.name)).Nodup

/-- The agents that are looked up for an address: those that one of the readings names. -/
def Roster.candidates (R : Roster) (address : Text) : List Candidate :=
  R.agents.filter fun c => (addressSplits address).any (·.agent = c.name)

/-! ## Readings -/

lemma mem_addressSplits {address : Text} {split : AgentAddress} :
    split ∈ addressSplits address ↔
      split.agent ≠ [] ∧ split.machine ≠ [] ∧ address = split.agent ++ '@' :: split.machine := by
  rw [addressSplits, List.mem_filterMap]
  constructor
  · rintro ⟨sep, -, hsplit⟩
    rw [Option.ite_none_right_eq_some, Option.some.injEq] at hsplit
    obtain ⟨⟨hat, hpos, hlast⟩, rfl⟩ := hsplit
    obtain ⟨hlt, hat⟩ := List.getElem?_eq_some_iff.mp hat
    refine ⟨?_, ?_, ?_⟩
    · exact List.ne_nil_of_length_pos (by rw [List.length_take]; omega)
    · exact List.ne_nil_of_length_pos (by rw [List.length_drop]; omega)
    · rw [← hat, ← List.drop_eq_getElem_cons hlt, List.take_append_drop]
  · rintro ⟨hagent, hmachine, rfl⟩
    have hpos := List.length_pos_iff.mpr hagent
    have hmachine := List.length_pos_iff.mpr hmachine
    refine ⟨split.agent.length, ?_, ?_⟩
    · rw [List.mem_range, List.length_append, List.length_cons]
      omega
    · have hat : (split.agent ++ '@' :: split.machine)[split.agent.length]? = some '@' := by simp
      have hlast : split.agent.length < (split.agent ++ '@' :: split.machine).length - 1 := by
        rw [List.length_append, List.length_cons]
        omega
      rw [if_pos ⟨hat, hpos, hlast⟩]
      simp

/-- Agents without an `@` in their names have different addresses. -/
lemma agent_eq_of_append {name name' machine machine' : Text} (h : '@' ∉ name) (h' : '@' ∉ name')
    (heq : name ++ '@' :: machine = name' ++ '@' :: machine') : name = name' := by
  have htake := congrArg (List.takeWhile (· != '@')) heq
  have hall : ∀ text : Text, '@' ∉ text → ∀ c ∈ text, (c != '@') = true := fun text htext c hc =>
    bne_iff_ne.mpr fun hat => htext (hat ▸ hc)
  rw [List.takeWhile_append_of_pos (hall name h), List.takeWhile_append_of_pos (hall name' h'),
    List.takeWhile_cons_of_neg (by simp), List.takeWhile_cons_of_neg (by simp), List.append_nil,
    List.append_nil] at htake
  exact htake

/-! ## Machines -/

lemma mem_usable {node : AddressNode} {id : Text} : id ∈ usable node ↔
    (id = node.name ∨ some id = node.machineId) ∧ id ≠ [] ∧ id ≠ DIRECT_MACHINE := by
  rw [usable, List.mem_filter, List.mem_cons, Option.mem_toList, decide_eq_true_eq,
    @eq_comm _ (some id)]

/-- A broker publishes one of its identifiers. -/
lemma mem_usable_of_published {node : AddressNode} {machine : Text} (hrole : node.role ≠ "direct")
    (h : publishedMachine node = some machine) : machine ∈ usable node := by
  rw [publishedMachine, if_neg hrole] at h
  rcases Option.or_eq_some_iff.mp h with hfound | ⟨-, hfirst⟩
  · exact List.mem_of_find?_eq_some hfound
  · exact List.mem_of_head? hfirst

/-- **A node is known by the machine that is published for it.** -/
lemma machineMatches_publishedMachine {node : AddressNode} {machine : Text}
    (h : publishedMachine node = some machine) :
    machine ≠ [] ∧ machineMatches machine (some node) = true := by
  by_cases hrole : node.role = "direct"
  · rw [publishedMachine, if_pos hrole, Option.some.injEq] at h
    cases hid : node.machineId.filter fun id => id ≠ [] ∧ '@' ∉ id with
    | none =>
      rw [hid, Option.getD_none] at h
      subst h
      exact ⟨by decide, by simp [machineMatches, hrole]⟩
    | some id =>
      rw [hid, Option.getD_some] at h
      subst h
      obtain ⟨hsome, hgood⟩ := Option.filter_eq_some_iff.mp hid
      exact ⟨(of_decide_eq_true hgood).1, by simp [machineMatches, hrole, hsome]⟩
  · obtain ⟨hknown, hne, hdirect⟩ := mem_usable.mp (mem_usable_of_published hrole h)
    exact ⟨hne, by simp [machineMatches, hrole, hdirect, hknown]⟩

/-! ## Recipients -/

section Recipients

variable {R : Roster} {c : Candidate} {address : Text}

/-- The name and the published machine of an agent are a reading of its address. -/
lemma mem_addressSplits_of_formatted (hname : c.name ≠ [])
    (h : formatAgentAddress c.name c.node = some address) :
    ∃ machine, ⟨c.name, machine⟩ ∈ addressSplits address ∧
      machineMatches machine c.node = true := by
  obtain ⟨machine, hmachine, rfl⟩ := Option.map_eq_some_iff.mp h
  obtain ⟨node, hnode, hpublished⟩ := Option.bind_eq_some_iff.mp hmachine
  obtain ⟨hne, hmatches⟩ := machineMatches_publishedMachine hpublished
  exact ⟨machine, mem_addressSplits.mpr ⟨hname, hne, rfl⟩, by rw [hnode]; exact hmatches⟩

/-- An agent is among those that its address is looked up for, and its address names it. -/
lemma mem_named (hc : c ∈ R.agents) (hlive : c.live = true) (hname : c.name ≠ [])
    (h : formatAgentAddress c.name c.node = some address) :
    c ∈ (R.candidates address).filter fun a => a.isNamedBy (addressSplits address) := by
  obtain ⟨machine, hsplit, hmatches⟩ := mem_addressSplits_of_formatted hname h
  have hlooked : c ∈ R.candidates address :=
    List.mem_filter.mpr ⟨hc, List.any_eq_true.mpr ⟨_, hsplit, by simp⟩⟩
  refine List.mem_filter.mpr ⟨hlooked, ?_⟩
  rw [Candidate.isNamedBy, hlive, Bool.true_and, List.any_eq_true]
  exact ⟨_, hsplit, by simp [hmatches]⟩

/-- The agents that an address names are live agents of the roster, so their names differ. -/
lemma nodup_named (R : Roster) (address : Text) :
    (((R.candidates address).filter fun a => a.isNamedBy (addressSplits address)).map
      (·.name)).Nodup := by
  refine R.unique.sublist (List.Sublist.map _ ?_)
  have hlive : ((R.candidates address).filter fun a => a.isNamedBy (addressSplits address)) =
      ((R.candidates address).filter fun a => a.isNamedBy (addressSplits address)).filter
        (·.live) := by
    refine (List.filter_eq_self.mpr fun a ha => ?_).symm
    exact ((Bool.and_eq_true _ _).mp (List.mem_filter.mp ha).2).1
  rw [hlive]
  exact (List.filter_sublist.trans List.filter_sublist).filter _

/-- An agent that an address names has the text before a separator for its name. -/
lemma append_of_named (R : Roster) (address : Text) (a : Candidate)
    (ha : a ∈ (R.candidates address).filter fun a => a.isNamedBy (addressSplits address)) :
    a ∈ R.agents ∧ ∃ machine, address = a.name ++ '@' :: machine := by
  obtain ⟨hlooked, hnamed⟩ := List.mem_filter.mp ha
  obtain ⟨split, hsplit, hsame⟩ :=
    List.any_eq_true.mp ((Bool.and_eq_true _ _).mp hnamed).2
  have hagent : split.agent = a.name := of_decide_eq_true ((Bool.and_eq_true _ _).mp hsame).1
  refine ⟨(List.mem_filter.mp hlooked).1, split.machine, ?_⟩
  rw [← hagent]
  exact (mem_addressSplits.mp hsplit).2.2

end Recipients

/-- **The address of an agent finds that agent, or is ambiguous.**  It is not ambiguous where no
name contains an `@`. -/
theorem selectAddressedRecipient_formatAgentAddress (R : Roster) {c : Candidate} {address : Text}
    (hc : c ∈ R.agents) (hlive : c.live = true) (hname : c.name ≠ [])
    (h : formatAgentAddress c.name c.node = some address) :
    (selectAddressedRecipient address (R.candidates address) = .ok c ∨
      selectAddressedRecipient address (R.candidates address) =
        .error (ambiguousAddress address)) ∧
    ((∀ a ∈ R.agents, '@' ∉ a.name) →
      selectAddressedRecipient address (R.candidates address) = .ok c) := by
  obtain ⟨machine, hsplit, -⟩ := mem_addressSplits_of_formatted hname h
  have hread : requireAgentAddress address = .ok (addressSplits address) := by
    rw [requireAgentAddress]
    cases hsplits : addressSplits address with
    | nil => exact absurd (hsplits ▸ hsplit) List.not_mem_nil
    | cons => rfl
  have hmem := mem_named hc hlive hname h
  have hnodup := nodup_named R address
  have happend := append_of_named R address
  rw [selectAddressedRecipient, hread]
  generalize hfound : ((R.candidates address).filter fun a => a.isNamedBy (addressSplits address)) =
    named at hmem hnodup happend
  simp only [bind, Except.bind, hfound]
  match named, hmem, hnodup, happend with
  | [a], hmem, _, _ =>
    obtain rfl := List.mem_singleton.mp hmem
    exact ⟨.inl rfl, fun _ => rfl⟩
  | a :: b :: rest, hmem, hnodup, happend =>
    refine ⟨.inr rfl, fun hnames => ?_⟩
    -- without an `@` in the names both are called what the address begins with
    obtain ⟨ha, machine, haddress⟩ := happend a List.mem_cons_self
    obtain ⟨hb, machine', haddress'⟩ := happend b (List.mem_cons_of_mem _ List.mem_cons_self)
    have hsame : a.name = b.name :=
      agent_eq_of_append (hnames a ha) (hnames b hb) (haddress.symm.trans haddress')
    have hrepeated : a.name ∈ (b :: rest).map (·.name) := by
      rw [hsame, List.map_cons]
      exact List.mem_cons_self
    exact absurd hrepeated (List.nodup_cons.mp hnodup).1

/-! ## Examples -/

def broker : AddressNode := ⟨"lab".toList, "broker", none⟩

def aliceOnBroker : Candidate := ⟨"1", "alice".toList, "active", some broker⟩

theorem selectAddressedRecipient_formatAgentAddress_alice :
    selectAddressedRecipient "alice@lab".toList
      (Roster.candidates ⟨[aliceOnBroker], by decide⟩ "alice@lab".toList) = .ok aliceOnBroker :=
  (selectAddressedRecipient_formatAgentAddress ⟨[aliceOnBroker], by decide⟩ (by decide) (by decide)
    (by decide) (by decide)).2 (by decide)

/-- An address that is read as two agents on two machines. -/
example : selectAddressedRecipient "alice@x@lab".toList
    [⟨"1", "alice".toList, "active", some ⟨"x@lab".toList, "broker", none⟩⟩,
      ⟨"2", "alice@x".toList, "active", some broker⟩] =
    .error (ambiguousAddress "alice@x@lab".toList) := by
  decide

/-- An agent that registered with an empty name. -/
def namelessOnBroker : Candidate := ⟨"1", [], "active", some broker⟩

/-- An agent without a name has an address, which is not one that is accepted. -/
theorem invalid_of_nameless : ∃ (R : Roster) (c : Candidate) (address : Text),
    c ∈ R.agents ∧ c.live = true ∧ formatAgentAddress c.name c.node = some address ∧
      selectAddressedRecipient address (R.candidates address) = .error invalidAddress ∧
      ¬ (selectAddressedRecipient address (R.candidates address) = .ok c ∨
        selectAddressedRecipient address (R.candidates address) =
          .error (ambiguousAddress address)) := by
  refine ⟨⟨[namelessOnBroker], by decide⟩, namelessOnBroker, "@lab".toList, by decide, by decide,
    by decide, ?_, ?_⟩
  · decide
  · decide

end Dm
