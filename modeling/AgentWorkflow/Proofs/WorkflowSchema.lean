/-
Documents that keep the rules for workflows.

* `Schema.NodeFits`, `Schema.Fits` — the document of a node, and of a workflow, keeps the rules;
  `Schema.validate_eq_ok_iff` — these are the documents that pass the check.
* `NodeHead.Fits` — what a node says can be written without breaking a rule.
* `Schema.NodeFits.decodes`, `Node.fits_toJson` — a node that keeps the rules is decoded, and what
  is written of it keeps them again.
* `Workflow.loads_of_validate` — a document that passes the check is loaded.

Design notes: the check collects violations, while the rules are met or not.  So they are stated
once more as predicates, with one constructor for a node and two for its members, and what holds
of documents that keep the rules is shown by recursion on these.
-/
import AgentWorkflow.Proofs.WorkflowCodec
import AgentWorkflow.Workflow.Document

namespace AgentWorkflow

open Json.Decode

namespace Schema

/-! ### The rules as predicates -/

/-- What a rule allows, the nodes of a list apart. -/
def Rule.Allows : Rule → Json → Prop
  | .anything, _ => True
  | .text, j => ∃ s, j = .text s ∧ s ≠ ""
  | .object, j => ∃ members, j = .object members
  | .textMembers, j => ∃ t : Table String, j = .object (Table.mapValues .text t)
  | .bool, j => ∃ b, j = .bool b
  | .wholeOrText, j => (∃ s, j = .text s) ∨ ∃ n, j = .number n ∧ isWhole n = true
  | .nodes, j => ∃ items, j = .list items

mutual

/-- The document of a node keeps the rules. -/
inductive NodeFits : Json → Prop
  | mk {members : List (String × Json)} (htype : Table.contains members "type" = true)
    (hmembers : ∀ m ∈ members, MemberFits m.1 m.2) : NodeFits (.object members)

/-- A member of a node keeps the rules. -/
inductive MemberFits : String → Json → Prop
  | plain {name : String} {rule : Rule} {j : Json} (hrule : ruleFor? name = some rule)
    (hplain : rule ≠ .nodes) (hallows : rule.Allows j) : MemberFits name j
  | nodes {name : String} {items : List Json} (hrule : ruleFor? name = some .nodes)
    (hitems : ∀ j ∈ items, NodeFits j) : MemberFits name (.list items)

end

/-- The document of a workflow keeps the rules. -/
inductive Fits : Json → Prop
  | mk {members : List (String × Json)}
    (hname : ∀ j, ("name", j) ∈ members → ∃ s, j = .text s)
    (hnodes : ∀ j, ("nodes", j) ∈ members → ∃ items, j = .list items ∧ ∀ i ∈ items, NodeFits i)
    (hgiven : Table.contains members "nodes" = true) : Fits (.object members)

namespace MemberFits

variable {name : String} {rule : Rule} {j : Json}

theorem known (h : MemberFits name j) : ruleFor? name ≠ none := by
  cases h with
  | plain hrule => simp [hrule]
  | nodes hrule => simp [hrule]

theorem iff_of_plain (hrule : ruleFor? name = some rule) (hplain : rule ≠ .nodes) :
    MemberFits name j ↔ rule.Allows j := by
  constructor
  · intro h
    cases h with
    | plain hrule' _ hallows =>
      rw [hrule, Option.some.injEq] at hrule'
      rw [hrule']
      exact hallows
    | nodes hrule' =>
      rw [hrule, Option.some.injEq] at hrule'
      exact absurd hrule' hplain
  · exact .plain hrule hplain

theorem iff_of_nodes (hrule : ruleFor? name = some .nodes) :
    MemberFits name j ↔ ∃ items, j = .list items ∧ ∀ i ∈ items, NodeFits i := by
  constructor
  · intro h
    cases h with
    | plain hrule' hplain =>
      rw [hrule, Option.some.injEq] at hrule'
      exact absurd hrule'.symm hplain
    | nodes _ hitems => exact ⟨_, rfl, hitems⟩
  · rintro ⟨items, rfl, hitems⟩
    exact .nodes hrule hitems

end MemberFits

theorem mem_nodeRules {name : String} {rule : Rule} (h : ruleFor? name = some rule) :
    (name, rule) ∈ nodeRules := by
  obtain ⟨entry, hfind, rfl⟩ := Option.map_eq_some_iff.mp h
  have hname : entry.1 = name := by simpa using List.find?_some hfind
  rw [← hname]
  exact List.mem_of_find?_eq_some hfind

/-! ### The check finds no violation exactly when the rules are kept -/

/-- The members of an object are all texts when none of them is a violation. -/
theorem textViolations_eq_nil_iff (members : List (String × Json)) :
    plainViolations .textMembers (.object members) = [] ↔
      ∃ t : Table String, members = Table.mapValues .text t := by
  rw [plainViolations, List.filterMap_eq_nil_iff]
  constructor
  · intro h
    induction members with
    | nil => exact ⟨[], rfl⟩
    | cons entry rest ih =>
      obtain ⟨key, j⟩ := entry
      obtain ⟨hj, hrest⟩ := List.forall_mem_cons.mp h
      obtain ⟨t, rfl⟩ := ih hrest
      cases j with
      | text s => exact ⟨(key, s) :: t, rfl⟩
      | null | bool | number | list | object => cases hj
  · rintro ⟨t, rfl⟩ m hm
    obtain ⟨entry, -, rfl⟩ := List.mem_map.mp hm
    rfl

theorem plainViolations_eq_nil_iff {rule : Rule} (hplain : rule ≠ .nodes) (j : Json) :
    plainViolations rule j = [] ↔ rule.Allows j := by
  cases rule with
  | anything => simp [plainViolations, Rule.Allows]
  | text => cases j <;> simp [plainViolations, Rule.Allows]
  | object => cases j <;> simp [plainViolations, Rule.Allows]
  | textMembers =>
    cases j with
    | object members => simp [textViolations_eq_nil_iff, Rule.Allows]
    | null | bool | number | text | list => simp [plainViolations, Rule.Allows]
  | bool => cases j <;> simp [plainViolations, Rule.Allows]
  | wholeOrText => cases j <;> simp [plainViolations, Rule.Allows]
  | nodes => exact absurd rfl hplain

theorem unexpected_eq_nil_iff (members : Table Json) :
    unexpected members = [] ↔ ∀ m ∈ members, ruleFor? m.1 ≠ none := by
  have hnames : unexpected members = [] ↔
      (Table.keys members).filter (fun name => (ruleFor? name).isNone) = [] := by
    unfold unexpected
    split
    · next h => simp only [h]
    · next names h => exact ⟨nofun, fun hnil => absurd hnil h⟩
  rw [hnames, List.filter_eq_nil_iff, Table.keys, List.forall_mem_map]
  simp

theorem missing_eq_nil_iff (name : String) (members : Table Json) :
    missing name members = [] ↔ Table.contains members name = true := by
  unfold missing
  split
  · next h => simp [h]
  · next h => simp [h]

-- The recursion is that of the check, with one theorem for each of its functions.
mutual

theorem nodeViolations_eq_nil_iff : ∀ j : Json, nodeViolations j = [] ↔ NodeFits j
  | .object members => by
    rw [nodeViolations, List.append_eq_nil_iff, List.append_eq_nil_iff,
      memberViolations_eq_nil_iff members, unexpected_eq_nil_iff, missing_eq_nil_iff]
    -- Members without a rule are no violation by themselves; they are found by their names.
    constructor
    · rintro ⟨⟨hmembers, hknown⟩, htype⟩
      exact .mk htype fun m hm => (hmembers m hm).resolve_left (hknown m hm)
    · rintro ⟨htype, hmembers⟩
      exact ⟨⟨fun m hm => .inr (hmembers m hm), fun m hm => (hmembers m hm).known⟩, htype⟩
  | .null | .bool _ | .number _ | .text _ | .list _ => by
    rw [nodeViolations]
    · exact ⟨nofun, nofun⟩
    · exact nofun

theorem memberViolations_eq_nil_iff : ∀ members : List (String × Json),
    memberViolations members = [] ↔
      ∀ m ∈ members, ruleFor? m.1 = none ∨ MemberFits m.1 m.2
  | [] => by simp [memberViolations]
  | (name, j) :: rest => by
    rw [memberViolations, List.append_eq_nil_iff, memberViolations_eq_nil_iff rest,
      List.forall_mem_cons]
    refine and_congr ?_ Iff.rfl
    split
    · next hnone => simp [hnone]
    · next hnodes =>
      rw [nodesViolations_eq_nil_iff j, MemberFits.iff_of_nodes hnodes]
      simp [hnodes]
    · next rule hplain hrule =>
      rw [plainViolations_eq_nil_iff hplain, MemberFits.iff_of_plain hrule hplain]
      simp [hrule]

theorem nodesViolations_eq_nil_iff : ∀ j : Json,
    nodesViolations j = [] ↔ ∃ items, j = .list items ∧ ∀ i ∈ items, NodeFits i
  | .list items => by
    rw [nodesViolations, itemViolations_eq_nil_iff items]
    simp
  | .null | .bool _ | .number _ | .text _ | .object _ => by simp [nodesViolations]

theorem itemViolations_eq_nil_iff : ∀ items : List Json,
    itemViolations items = [] ↔ ∀ i ∈ items, NodeFits i
  | [] => by simp [itemViolations]
  | item :: rest => by
    rw [itemViolations, List.append_eq_nil_iff, nodeViolations_eq_nil_iff item,
      itemViolations_eq_nil_iff rest, List.forall_mem_cons]

end

theorem violations_eq_nil_iff (document : Json) : violations document = [] ↔ Fits document := by
  cases document with
  | object members =>
    rw [violations, List.append_eq_nil_iff, missing_eq_nil_iff, List.flatMap_eq_nil_iff]
    constructor
    · rintro ⟨hmembers, hgiven⟩
      refine .mk (fun j hj => ?_) (fun j hj => ?_) hgiven
      · have hname := hmembers _ hj
        cases j with
        | text s => exact ⟨s, rfl⟩
        | null | bool | number | list | object => cases hname
      · exact (nodesViolations_eq_nil_iff j).mp (hmembers _ hj)
    · rintro ⟨hname, hnodes, hgiven⟩
      refine ⟨fun m hm => ?_, hgiven⟩
      obtain ⟨key, j⟩ := m
      by_cases hkey : key = "name"
      · subst hkey
        obtain ⟨s, rfl⟩ := hname j hm
        rfl
      by_cases hkey' : key = "nodes"
      · subst hkey'
        exact (nodesViolations_eq_nil_iff j).mpr (hnodes j hm)
      rw [if_neg hkey, if_neg hkey']
  | null | bool | number | text | list =>
    rw [violations]
    · exact ⟨nofun, nofun⟩
    · exact nofun

/-- The check passes the documents that keep the rules, and no others. -/
theorem validate_eq_ok_iff (document : Json) : validate document = .ok () ↔ Fits document := by
  rw [← violations_eq_nil_iff]
  unfold validate
  split
  · next h => simp only [h]
  · next h => exact ⟨nofun, fun hnil => absurd hnil h⟩

end Schema

open Schema (NodeFits MemberFits Rule ruleFor?)

/-! ### What nodes say that keep the rules -/

/-- What a node may say apart from its type keeps the rules. -/
structure NodeHead.OptionsFit (h : NodeHead) : Prop where
  id : h.id ≠ some ""
  outputKey : h.outputKey ≠ some ""
  maxIterations : ∀ j, h.maxIterations = some j → Rule.wholeOrText.Allows j

/-- What a node says keeps the rules. -/
structure NodeHead.Fits (h : NodeHead) : Prop where
  type : h.type ≠ ""
  options : h.OptionsFit

/-- The fields of a node met so far keep the rules. -/
structure NodeFields.Fits (f : NodeFields) : Prop where
  type : f.typed = true → f.head.type ≠ ""
  options : f.head.OptionsFit
  body : ∀ n ∈ f.body, n.All NodeHead.Fits
  thenSteps : ∀ n ∈ f.thenSteps, n.All NodeHead.Fits
  elseSteps : ∀ n ∈ f.elseSteps, n.All NodeHead.Fits

namespace NodeFields

theorem fits_start : NodeFields.start.Fits :=
  ⟨nofun, ⟨nofun, nofun, nofun⟩, nofun, nofun, nofun⟩

/-- What becomes of fields with a member: they keep the rules, and the type is known once a
member gave it. -/
structure Extends (f : NodeFields) (name : String) (f' : NodeFields) : Prop where
  fits : f.Fits → f'.Fits
  typed : f.typed = true ∨ name = "type" → f'.typed = true

variable {f : NodeFields} {name : String} {rule : Rule} {j : Json}

/-- A member other than the type and the steps changes what the node may say. -/
theorem extends_options {h : NodeHead} (hname : name ≠ "type") (htype : h.type = f.head.type)
    (hoptions : f.head.OptionsFit → h.OptionsFit) : f.Extends name { f with head := h } := by
  refine ⟨fun hf => { hf with type := ?_, options := hoptions hf.options }, ?_⟩
  · rw [htype]
    exact hf.type
  · rintro (htyped | heq)
    · exact htyped
    · exact absurd heq hname

/-- A field that may hold any value is taken whatever it holds. -/
theorem exists_put_any (hname : name ≠ "type") (set : Option Json → NodeHead)
    (hput : f.put name j = (nullable Except.ok j).map fun value => { f with head := set value })
    (htype : ∀ value, (set value).type = f.head.type)
    (hoptions : ∀ value, f.head.OptionsFit → (set value).OptionsFit) :
    ∃ f', f.put name j = .ok f' ∧ f.Extends name f' := by
  obtain ⟨value, hvalue⟩ := exists_nullable j
  refine ⟨{ f with head := set value }, ?_,
    extends_options hname (htype value) (hoptions value)⟩
  rw [hput, hvalue]
  rfl

/-- A field that keeps its rule is taken. -/
theorem exists_put (f : NodeFields) (hrule : ruleFor? name = some rule) (hplain : rule ≠ .nodes)
    (hallows : rule.Allows j) : ∃ f', f.put name j = .ok f' ∧ f.Extends name f' := by
  have hmem := Schema.mem_nodeRules hrule
  simp only [Schema.nodeRules, List.mem_cons, Prod.mk.injEq, List.not_mem_nil, or_false] at hmem
  rcases hmem with ⟨rfl, rfl⟩ | ⟨rfl, rfl⟩ | ⟨rfl, rfl⟩ | ⟨rfl, rfl⟩ | ⟨rfl, rfl⟩ | ⟨rfl, rfl⟩ |
    ⟨rfl, rfl⟩ | ⟨rfl, rfl⟩ | ⟨rfl, rfl⟩ | ⟨rfl, rfl⟩ | ⟨rfl, rfl⟩ | ⟨rfl, rfl⟩ | ⟨rfl, rfl⟩
  · -- The id.
    obtain ⟨s, rfl, hs⟩ := hallows
    refine ⟨_, rfl, extends_options (by decide) rfl fun h => ⟨?_, h.outputKey, h.maxIterations⟩⟩
    exact fun hid => hs (Option.some.inj hid)
  · -- The type: the one member that makes the type known.
    obtain ⟨s, rfl, hs⟩ := hallows
    refine ⟨_, rfl, fun hf => { hf with type := fun _ => hs, options := ?_ }, fun _ => rfl⟩
    exact ⟨hf.options.id, hf.options.outputKey, hf.options.maxIterations⟩
  · -- The inputs.
    obtain ⟨inputs, rfl⟩ := hallows
    exact ⟨_, rfl, extends_options (by decide) rfl
      fun h => ⟨h.id, h.outputKey, h.maxIterations⟩⟩
  · -- The outputs: a table of texts is read back as it is.
    obtain ⟨t, rfl⟩ := hallows
    refine ⟨{ f with head := { f.head with outputs := some t } }, ?_,
      extends_options (by decide) rfl fun h => ⟨h.id, h.outputKey, h.maxIterations⟩⟩
    show ((members string (Table.mapValues .text t)).map some).map _ = _
    rw [members_mapValues]
    rfl
  · -- The condition.
    exact exists_put_any (by decide) (fun value => { f.head with «when» := value }) rfl
      (fun _ => rfl) fun _ h => ⟨h.id, h.outputKey, h.maxIterations⟩
  · -- Whether the node is disabled.
    obtain ⟨b, rfl⟩ := hallows
    exact ⟨_, rfl, extends_options (by decide) rfl
      fun h => ⟨h.id, h.outputKey, h.maxIterations⟩⟩
  · exact absurd rfl hplain
  · -- The limit of a loop, a number or a text.
    have hput : f.put "max_iterations" j =
        .ok { f with head := { f.head with maxIterations := some j } } := by
      rcases hallows with ⟨s, rfl⟩ | ⟨n, rfl, -⟩
      · rfl
      · rfl
    refine ⟨_, hput, extends_options (by decide) rfl fun h => ⟨h.id, h.outputKey, ?_⟩⟩
    intro limit hlimit
    rw [← Option.some.inj hlimit]
    exact hallows
  · -- When a loop stops.
    exact exists_put_any (by decide) (fun value => { f.head with stopWhen := value }) rfl
      (fun _ => rfl) fun _ h => ⟨h.id, h.outputKey, h.maxIterations⟩
  · -- What a loop stops on.
    exact exists_put_any (by decide) (fun value => { f.head with stopOn := value }) rfl
      (fun _ => rfl) fun _ h => ⟨h.id, h.outputKey, h.maxIterations⟩
  · exact absurd rfl hplain
  · exact absurd rfl hplain
  · -- The key that a branch is written under.
    obtain ⟨s, rfl, hs⟩ := hallows
    refine ⟨_, rfl, extends_options (by decide) rfl fun h => ⟨h.id, ?_, h.maxIterations⟩⟩
    exact fun hkey => hs (Option.some.inj hkey)

/-- Steps that keep the rules are taken. -/
theorem extends_putSteps (hname : stepNames.contains name = true) {steps : List Node}
    (hsteps : ∀ n ∈ steps, n.All NodeHead.Fits) : f.Extends name (f.putSteps name steps) := by
  have hmem : name = "body" ∨ name = "then_steps" ∨ name = "else_steps" := by
    simpa [stepNames] using hname
  rcases hmem with rfl | rfl | rfl
  · exact ⟨fun hf => { hf with body := hsteps }, fun h => h.resolve_right (by decide)⟩
  · exact ⟨fun hf => { hf with thenSteps := hsteps }, fun h => h.resolve_right (by decide)⟩
  · exact ⟨fun hf => { hf with elseSteps := hsteps }, fun h => h.resolve_right (by decide)⟩

theorem contains_stepNames_iff : stepNames.contains name = true ↔ ruleFor? name = some .nodes := by
  constructor
  · intro hname
    have hmem : name = "body" ∨ name = "then_steps" ∨ name = "else_steps" := by
      simpa [stepNames] using hname
    rcases hmem with rfl | rfl | rfl <;> rfl
  · intro hrule
    have hmem := Schema.mem_nodeRules hrule
    simpa [Schema.nodeRules, stepNames] using hmem

end NodeFields

/-! ### Nodes that keep the rules are decoded -/

namespace Node

theorem exists_decodeList {P : Node → Prop} {items : List Json}
    (h : ∀ j ∈ items, ∃ n, decode j = .ok n ∧ P n) :
    ∃ nodes, decodeList items = .ok nodes ∧ ∀ n ∈ nodes, P n := by
  induction items with
  | nil => exact ⟨[], rfl, List.forall_mem_nil P⟩
  | cons j rest ih =>
    obtain ⟨⟨n, hdecode, hn⟩, hrest⟩ := List.forall_mem_cons.mp h
    obtain ⟨nodes, hnodes, hall⟩ := ih hrest
    refine ⟨n :: nodes, ?_, List.forall_mem_cons.mpr ⟨hn, hall⟩⟩
    rw [decodeList, hdecode, hnodes]
    rfl

theorem exists_decodeMembers {members : List (String × Json)}
    (h : ∀ m ∈ members, ∀ f, ∃ f', decodeField f m.1 m.2 = .ok f' ∧ f.Extends m.1 f')
    {f : NodeFields} (hf : f.Fits) :
    ∃ f', decodeMembers f members = .ok f' ∧ f'.Fits ∧
      (f.typed = true ∨ Table.contains members "type" = true → f'.typed = true) := by
  induction members generalizing f with
  | nil => exact ⟨f, rfl, hf, fun htyped => htyped.resolve_right nofun⟩
  | cons entry rest ih =>
    obtain ⟨name, j⟩ := entry
    obtain ⟨htaken, hrest⟩ := List.forall_mem_cons.mp h
    obtain ⟨g, hg, hextends⟩ := htaken f
    obtain ⟨f', hf', hfits, htyped⟩ := ih hrest (hextends.fits hf)
    refine ⟨f', ?_, hfits, fun hgiven => htyped ?_⟩
    · rw [decodeMembers, hg]
      exact hf'
    -- The type was known before, it is this member, or it is among the rest.
    rcases hgiven with hbefore | hcontains
    · exact .inl (hextends.typed (.inl hbefore))
    by_cases hname : name = "type"
    · exact .inl (hextends.typed (.inr hname))
    · rw [Table.contains, Table.get?_cons, if_neg (Ne.symm hname)] at hcontains
      exact .inr hcontains

end Node

mutual

/-- A node that keeps the rules is decoded, and whatever it says keeps them. -/
theorem Schema.NodeFits.decodes : ∀ {j : Json}, NodeFits j →
    ∃ n, Node.decode j = .ok n ∧ n.All NodeHead.Fits
  | _, .mk htype hmembers => by
    obtain ⟨f, hdecode, hf, htyped⟩ := Node.exists_decodeMembers
      (fun m hm => (hmembers m hm).taken) NodeFields.fits_start
    refine ⟨.mk f.head f.body f.thenSteps f.elseSteps, ?_, ?_⟩
    · rw [Node.decode, hdecode]
      show f.toNode _ = _
      rw [NodeFields.toNode, if_pos (htyped (.inr htype))]
    · exact .mk ⟨hf.type (htyped (.inr htype)), hf.options⟩ hf.body hf.thenSteps hf.elseSteps

/-- A member that keeps the rules is taken by the fields before it. -/
theorem Schema.MemberFits.taken : ∀ {name : String} {j : Json}, MemberFits name j →
    ∀ f : NodeFields, ∃ f', Node.decodeField f name j = .ok f' ∧ f.Extends name f'
  | _, _, .plain hrule hplain hallows, f => by
    have hname := (not_congr NodeFields.contains_stepNames_iff).mpr
      fun h => hplain (Option.some.inj (hrule.symm.trans h))
    rw [Node.decodeField_eq_put hname]
    exact f.exists_put hrule hplain hallows
  | _, _, .nodes hrule hitems, f => by
    have hname := NodeFields.contains_stepNames_iff.mpr hrule
    obtain ⟨steps, hsteps, hall⟩ := Node.exists_decodeList fun j hj => (hitems j hj).decodes
    refine ⟨f.putSteps _ steps, ?_, NodeFields.extends_putSteps hname hall⟩
    rw [Node.decodeField, if_pos hname, hsteps]
    rfl

end

/-! ### What is written of nodes keeps the rules -/

theorem Json.eq_of_mem_memberOf? {name : String} {written : Option Json} {m : String × Json}
    (h : m ∈ Json.memberOf? name written) : m.1 = name ∧ written = some m.2 := by
  cases written with
  | none => cases h
  | some j =>
    rw [List.mem_singleton.mp h]
    exact ⟨rfl, rfl⟩

namespace Schema.MemberFits

variable {name : String}

theorem of_mem_memberOf? {written : Option Json}
    (h : ∀ j, written = some j → MemberFits name j) :
    ∀ m ∈ Json.memberOf? name written, MemberFits m.1 m.2 := by
  intro m hm
  obtain ⟨hname, hwritten⟩ := Json.eq_of_mem_memberOf? hm
  rw [hname]
  exact h m.2 hwritten

theorem of_mem_textMember (hrule : ruleFor? name = some .text) {value : Option String}
    (hvalue : value ≠ some "") :
    ∀ m ∈ Json.memberOf? name (value.map .text), MemberFits m.1 m.2 := by
  refine of_mem_memberOf? fun j hj => ?_
  obtain ⟨s, hs, rfl⟩ := Option.map_eq_some_iff.mp hj
  have hne : s ≠ "" := fun h => hvalue (by rw [hs, h])
  exact .plain hrule (by decide) ⟨s, rfl, hne⟩

theorem of_mem_anyMember (hrule : ruleFor? name = some .anything) (value : Option Json) :
    ∀ m ∈ Json.memberOf? name value, MemberFits m.1 m.2 :=
  of_mem_memberOf? fun _ _ => .plain hrule (by decide) trivial

end Schema.MemberFits

namespace Node

theorem forall_mem_listToJson {P : Json → Prop} {nodes : List Node}
    (h : ∀ n ∈ nodes, P n.toJson) : ∀ j ∈ listToJson nodes, P j := by
  rw [listToJson_eq]
  exact List.forall_mem_map.mpr h

theorem fits_stepsMember {name : String} (hrule : ruleFor? name = some .nodes)
    {steps : List Node} (hsteps : ∀ n ∈ steps, NodeFits n.toJson) :
    ∀ m ∈ stepsMember name steps, MemberFits m.1 m.2 := by
  cases steps with
  | nil => exact nofun
  | cons n rest =>
    exact List.forall_mem_singleton.mpr (.nodes hrule (forall_mem_listToJson hsteps))

/-- What is written of a node that keeps the rules keeps them. -/
theorem fits_toJson {n : Node} (hn : n.All NodeHead.Fits) : NodeFits n.toJson := by
  induction hn with
  | @mk h body thenSteps elseSteps hhead _ _ _ hbody hthen helse =>
  obtain ⟨htype, hid, hkey, hlimit⟩ := hhead
  have hdisabled : ∀ m ∈ if h.disabled then [("disabled", Json.bool true)] else [],
      MemberFits m.1 m.2 := by
    split
    · exact List.forall_mem_singleton.mpr (.plain rfl (by decide) ⟨true, rfl⟩)
    · exact nofun
  have hinputs : ∀ m ∈ if h.inputs.isEmpty then [] else [("inputs", Json.object h.inputs)],
      MemberFits m.1 m.2 := by
    split
    · exact nofun
    · exact List.forall_mem_singleton.mpr (.plain rfl (by decide) ⟨h.inputs, rfl⟩)
  have hmax : ∀ m ∈ Json.memberOf? "max_iterations" h.maxIterations, MemberFits m.1 m.2 :=
    .of_mem_memberOf? fun j hj => .plain rfl (by decide) (hlimit j hj)
  have houtputs : ∀ m ∈ Json.memberOf? "outputs"
      (h.outputs.map fun t => .object (Table.mapValues .text t)), MemberFits m.1 m.2 := by
    refine .of_mem_memberOf? fun j hj => ?_
    obtain ⟨t, -, rfl⟩ := Option.map_eq_some_iff.mp hj
    exact .plain rfl (by decide) ⟨t, rfl⟩
  have htypes : ∀ m ∈ [("type", Json.text h.type)], MemberFits m.1 m.2 :=
    List.forall_mem_singleton.mpr (.plain rfl (by decide) ⟨h.type, rfl, htype⟩)
  rw [toJson]
  refine .mk ?_ ?_
  · simp [Table.contains, Table.get?_append, Table.get?_cons]
  -- One condition for each member, in the order of their names.
  simp only [List.forall_mem_append]
  exact ⟨⟨⟨⟨⟨⟨⟨⟨⟨⟨⟨⟨fits_stepsMember rfl hbody, hdisabled⟩, fits_stepsMember rfl helse⟩,
    .of_mem_textMember rfl hid⟩, hinputs⟩, hmax⟩, .of_mem_textMember rfl hkey⟩, houtputs⟩,
    .of_mem_anyMember rfl h.stopOn⟩, .of_mem_anyMember rfl h.stopWhen⟩,
    fits_stepsMember rfl hthen⟩, htypes⟩, .of_mem_anyMember rfl h.when⟩

end Node

namespace Workflow

/-! ### Documents that keep the rules -/

/-- A document that keeps the rules holds a workflow, and whatever its nodes say keeps them. -/
theorem exists_ofJson_of_fits {document : Json} (h : Schema.Fits document) :
    ∃ w, ofJson document = .ok w ∧ ∀ n ∈ w.nodes, n.All NodeHead.Fits := by
  obtain @⟨members, hname, hnodes, hgiven⟩ := h
  obtain ⟨j, hget⟩ := Option.isSome_iff_exists.mp hgiven
  obtain ⟨items, rfl, hitems⟩ := hnodes j (Table.mem_of_get? hget)
  obtain ⟨nodes, hdecode, hfits⟩ := Node.exists_decodeList fun i hi => (hitems i hi).decodes
  -- The name need not be there, and the rules know no name that is null.
  have hfield : ∃ name, field? members "name" (nullable string) = .ok name := by
    unfold field?
    split
    · exact ⟨none, rfl⟩
    · next j' hget' =>
      obtain ⟨s, rfl⟩ := hname j' (Table.mem_of_get? hget')
      exact ⟨some (some s), rfl⟩
  obtain ⟨name, hfield⟩ := hfield
  have hhas : hasNodes (.object members) = true := by
    rw [hasNodes, Json.member?, hget]
  refine ⟨⟨name.join, nodes⟩, ?_, hfits⟩
  rw [ofJson, if_pos hhas, decode, Json.object?, Option.getD_some, hfield]
  unfold field?
  rw [hget]
  show Outcome.ofMismatch _ (((Node.decodeList items).map some).bind _) = _
  rw [hdecode]
  rfl

/-- What is written of a workflow keeps the rules when whatever its nodes say does. -/
theorem fits_toJson {w : Workflow} (hw : ∀ n ∈ w.nodes, n.All NodeHead.Fits) :
    Schema.Fits w.toJson := by
  have hitems : ∀ j ∈ Node.listToJson w.nodes, NodeFits j :=
    Node.forall_mem_listToJson fun n hn => Node.fits_toJson (hw n hn)
  rw [toJson]
  refine .mk (fun j hj => ?_) (fun j hj => ?_) ?_
  · rcases List.mem_append.mp hj with hname | hother
    · obtain ⟨s, -, rfl⟩ := Option.map_eq_some_iff.mp (Json.eq_of_mem_memberOf? hname).2
      exact ⟨s, rfl⟩
    · have hkey : "name" = "nodes" := congrArg Prod.fst (List.mem_singleton.mp hother)
      exact absurd hkey (by decide)
  · rcases List.mem_append.mp hj with hother | hnodes
    · have hkey : "nodes" = "name" := (Json.eq_of_mem_memberOf? hother).1
      exact absurd hkey (by decide)
    · exact ⟨_, congrArg Prod.snd (List.mem_singleton.mp hnodes), hitems⟩
  · simp [Table.contains, Table.get?_append, Table.get?_cons]

/-- A document that passes the check holds a workflow.  What is written of the workflow passes
the check and is read back as the workflow, and a file with the document is loaded. -/
theorem loads_of_validate {document : Json} (h : Schema.validate document = .ok ()) :
    ∃ w, ofJson document = .ok w ∧ Schema.validate w.toJson = .ok () ∧ ofJson w.toJson = .ok w ∧
      ∀ disk path, readDocument disk path = .ok document → load disk path = .ok w := by
  obtain ⟨w, hw, hfits⟩ := exists_ofJson_of_fits ((Schema.validate_eq_ok_iff document).mp h)
  refine ⟨w, hw, (Schema.validate_eq_ok_iff _).mpr (fits_toJson hfits),
    ofJson_toJson_of_definite (definite_of_ofJson hw), fun disk path hread => ?_⟩
  have hhas := (ofJson_eq_ok hw).1
  rw [load, hread]
  show ofValidJson document = _
  rw [ofValidJson, if_pos hhas, h]
  exact hw

/-- A loop round a branch, with fields that are null or empty and a limit that is no text. -/
theorem loads_nested :
    let document : Json := .object [
      ("name", .text "nightly"),
      ("nodes", .list [
        .object [
          ("body", .list [
            .object [
              ("else_steps", .list []),
              ("inputs", .object []),
              ("outputs", .object []),
              ("then_steps", .list [.object [("type", .text "utils.not"), ("when", .null)]]),
              ("type", .text "branch")]]),
          ("disabled", .bool false),
          -- The number 2.0, which is whole: 2 to the power of 52, halved 51 times.
          ("max_iterations", .number (.float ⟨false, 4503599627370496, -51⟩)),
          ("stop_on", .null),
          ("type", .text "loop")]])]
    Schema.validate document = .ok () ∧
      ∃ w, ofJson document = .ok w ∧ Schema.validate w.toJson = .ok () ∧ ofJson w.toJson = .ok w ∧
        ∀ disk path, readDocument disk path = .ok document → load disk path = .ok w := by
  intro document
  have hvalid : Schema.validate document = .ok () := rfl
  exact ⟨hvalid, loads_of_validate hvalid⟩

end Workflow

end AgentWorkflow
