/-
Paths in the documents of workflows.

* `Json.below?`, `Json.readPath?` — what an address, and a path, leads to in a document.
* `Json.below?_toJson` — in what is written of a node, an address leads to what is written of the
  node that it leads to there.
* `Node.Plain` — nodes are written as objects, and no member twice.
* `Json.below?_decode` — in a document that is decoded, an address leads to the document of the node
  that it leads to.

Design notes: a node may also be written as a list of its fields, and then its blocks have no names
that a path could go by.  Members that a node does not have, and empty blocks, do not matter: no
path leads there.
-/
import AgentWorkflow.Proofs.Paths
import AgentWorkflow.Proofs.WorkflowCodec

namespace AgentWorkflow

namespace Json

/-- The value that an address leads to. -/
def below? : Address → Json → Option Json
  | [], j => some j
  | (block, i) :: rest, j =>
    ((j.member? block.name).bind list?).bind fun items => items[i]?.bind (below? rest)

/-- The value that a path leads to. -/
def readPath? (document : Json) (path : String) : Option Json :=
  (Address.ofPath? path).bind fun address => below? address document

theorem below?_cons {j : Json} {block : Block} {items : List Json}
    (h : j.member? block.name = some (.list items)) (i : Nat) (address : Address) :
    below? ((block, i) :: address) j = items[i]?.bind (below? address) := by
  rw [below?, h]
  rfl

theorem readPath?_path {document : Json} {address : Address} (hne : address ≠ []) :
    document.readPath? (Address.path address) = below? address document := by
  rw [readPath?, Address.ofPath?_path hne, Option.bind_some]

/-! ### What is written of a node -/

theorem get?_memberOf? (name : String) (value : Option Json) (key : String) :
    Table.get? (memberOf? name value) key = if key = name then value else none := by
  cases value with
  | none => simp [memberOf?]
  | some j => simp [memberOf?, Table.get?_cons]

end Json

namespace Node

theorem get?_stepsMember (name : String) (steps : List Node) (key : String) :
    Table.get? (stepsMember name steps) key =
      if key = name ∧ steps ≠ [] then some (.list (steps.map toJson)) else none := by
  cases steps with
  | nil => simp [stepsMember]
  | cons n rest => simp [stepsMember, Table.get?_cons, listToJson_eq]

/-- A block that is not empty is written under its name. -/
theorem member?_toJson (n : Node) {block : Block} (hne : n.block block ≠ []) :
    n.toJson.member? block.name = some (.list ((n.block block).map toJson)) := by
  obtain ⟨h, body, thenSteps, elseSteps⟩ := n
  have hite : ∀ (p : Prop) [Decidable p] (t t' : Table Json) (key : String),
      Table.get? (if p then t else t') key =
        if p then Table.get? t key else Table.get? t' key :=
    fun p _ t t' key => apply_ite (fun t => Table.get? t key) p t t'
  cases block with
  | top => exact absurd rfl hne
  | body | thenSteps | elseSteps =>
    simp only [Node.block, Node.body, Node.thenSteps, Node.elseSteps] at hne
    simp [toJson, Json.member?, Block.name, Table.get?_append, get?_stepsMember,
      Json.get?_memberOf?, Table.get?_cons, hite, hne, Node.block, Node.body, Node.thenSteps,
      Node.elseSteps]

end Node

theorem Json.below?_toJson {address : Address} {n m : Node}
    (h : Node.below? address n = some m) : below? address n.toJson = some m.toJson := by
  induction address generalizing n with
  | nil => rw [below?, Option.some.inj h]
  | cons step rest ih =>
    obtain ⟨block, i⟩ := step
    obtain ⟨k, hk, hbelow⟩ := Option.bind_eq_some_iff.mp h
    have hne : n.block block ≠ [] := fun hnil => by simp [hnil] at hk
    rw [below?_cons (n.member?_toJson hne), List.getElem?_map, hk]
    exact ih hbelow

/-- A path leads to what is written of the node at its address. -/
theorem Workflow.below?_toJson {w : Workflow} {address : Address} {n : Node}
    (h : w.nodeAt? address = some n) : Json.below? address w.toJson = some n.toJson := by
  rcases address with _ | ⟨⟨block, i⟩, rest⟩
  · cases h
  cases block with
  | body | thenSteps | elseSteps => cases h
  | top =>
    obtain ⟨k, hk, hbelow⟩ := Option.bind_eq_some_iff.mp h
    have hnodes : w.toJson.member? Block.top.name = some (.list (w.nodes.map Node.toJson)) := by
      simp [toJson, Json.member?, Block.name, Table.get?_append, Json.get?_memberOf?,
        Table.get?_cons, Node.listToJson_eq]
    rw [Json.below?_cons hnodes, List.getElem?_map, hk]
    exact Json.below?_toJson hbelow

/-! ### What a node is decoded from -/

/-- Nodes are written as objects, here and below, and no member is written twice. -/
inductive Node.Plain : Json → Prop
  | mk {members : List (String × Json)} (hkeys : (Table.keys members).Nodup)
    (hsteps : ∀ block items, (Block.name block, Json.list items) ∈ members →
      ∀ j ∈ items, Node.Plain j) : Node.Plain (.object members)

/-- The steps met so far of a block. -/
def NodeFields.block (f : NodeFields) : Block → List Node
  | .top => []
  | .body => f.body
  | .thenSteps => f.thenSteps
  | .elseSteps => f.elseSteps

namespace NodeFields

variable {f g : NodeFields} {name : String} {j : Json} {block : Block}

theorem block_put (h : f.put name j = .ok g) (block : Block) : g.block block = f.block block := by
  unfold put at h
  split at h
  -- The inputs are matched for a map, a name that is not known is passed over, and every other
  -- field is a value that is read and put into the head.
  case h_3 =>
    split at h
    · cases h
      cases block <;> rfl
    · cases h
  case h_11 =>
    cases h
    rfl
  all_goals
    obtain ⟨value, -, h⟩ := Except.bind_eq_ok h
    cases h
    cases block <;> rfl

theorem block_putSteps (hblock : block ≠ .top) (f : NodeFields) (name : String)
    (steps : List Node) (hname : stepNames.contains name) :
    (f.putSteps name steps).block block = if name = block.name then steps else f.block block := by
  have hmem : name = "body" ∨ name = "then_steps" ∨ name = "else_steps" := by
    simpa [stepNames] using hname
  rcases hmem with rfl | rfl | rfl
  all_goals
    cases block with
    | top => exact absurd rfl hblock
    | body | thenSteps | elseSteps => rfl

end NodeFields

namespace Node

variable {f g : NodeFields} {name : String} {j : Json} {block : Block} {n m : Node}

theorem contains_stepNames_name (hblock : block ≠ .top) :
    NodeFields.stepNames.contains block.name = true := by
  cases block with
  | top => exact absurd rfl hblock
  | body | thenSteps | elseSteps => decide

/-- A field of another name leaves a block as it was. -/
theorem block_decodeField_of_ne (hblock : block ≠ .top) (h : decodeField f name j = .ok g)
    (hne : name ≠ block.name) : g.block block = f.block block := by
  unfold decodeField at h
  split at h
  all_goals split at h
  · next hname =>
    obtain ⟨steps, -, h⟩ := Except.bind_eq_ok h
    rw [← Except.ok.inj h, NodeFields.block_putSteps hblock f name steps hname, if_neg hne]
  · exact NodeFields.block_put h block
  · cases h
  · exact NodeFields.block_put h block

/-- The field of a block is a list that is decoded. -/
theorem exists_of_decodeField (hblock : block ≠ .top)
    (h : decodeField f block.name j = .ok g) :
    ∃ items, j = .list items ∧ decodeList items = .ok (g.block block) := by
  have hname := contains_stepNames_name hblock
  unfold decodeField at h
  split at h
  · next items =>
    rw [if_pos hname] at h
    obtain ⟨steps, hsteps, h⟩ := Except.bind_eq_ok h
    refine ⟨items, rfl, ?_⟩
    rw [← Except.ok.inj h, NodeFields.block_putSteps hblock f _ steps hname, if_pos rfl, hsteps]
  · rw [if_pos hname] at h
    cases h

/-- The steps of a block are those that were there, or are decoded from the member of its name. -/
theorem block_decodeMembers (hblock : block ≠ .top) {members : List (String × Json)}
    (hkeys : (Table.keys members).Nodup) (h : decodeMembers f members = .ok g) :
    (g.block block = f.block block ∧ block.name ∉ Table.keys members) ∨
      ∃ items, Table.get? members block.name = some (.list items) ∧
        decodeList items = .ok (g.block block) := by
  induction members generalizing f with
  | nil => exact .inl ⟨by rw [Except.ok.inj h], List.not_mem_nil⟩
  | cons entry rest ih =>
    obtain ⟨name, j⟩ := entry
    obtain ⟨hnew, hrest⟩ := List.nodup_cons.mp hkeys
    rw [decodeMembers] at h
    obtain ⟨f', hfield, hmore⟩ := Except.bind_eq_ok h
    by_cases hname : name = block.name
    · subst hname
      obtain ⟨items, rfl, hitems⟩ := exists_of_decodeField hblock hfield
      -- The name does not come again, so what is read here is not overwritten.
      rcases ih hrest hmore with ⟨hsame, -⟩ | ⟨items', hget, -⟩
      · exact .inr ⟨items, by rw [Table.get?_cons, if_pos rfl], by rw [hsame, hitems]⟩
      · exact absurd (Table.mem_keys_iff.mpr ⟨_, hget⟩) hnew
    · rw [Table.get?_cons, if_neg (Ne.symm hname)]
      refine (ih hrest hmore).imp_left fun ⟨hsame, hnone⟩ => ⟨?_, ?_⟩
      · rw [hsame, block_decodeField_of_ne hblock hfield hname]
      · exact List.not_mem_cons_of_ne_of_not_mem (Ne.symm hname) hnone

theorem exists_getElem?_of_decodeList {items : List Json} {nodes : List Node} {i : Nat}
    (h : decodeList items = .ok nodes) (hm : nodes[i]? = some m) :
    ∃ j, items[i]? = some j ∧ decode j = .ok m := by
  induction items generalizing nodes i with
  | nil =>
    rw [← Except.ok.inj h] at hm
    cases hm
  | cons j rest ih =>
    rw [decodeList] at h
    obtain ⟨n, hn, h⟩ := Except.bind_eq_ok h
    obtain ⟨more, hmore, h⟩ := Except.bind_eq_ok h
    rw [← Except.ok.inj h] at hm
    cases i with
    | zero => exact ⟨j, rfl, by rw [hn, Option.some.inj hm]⟩
    | succ i => exact ih hmore hm

/-- A node of a block is decoded from an item under the name of the block. -/
theorem exists_item_of_decode {members : List (String × Json)}
    (hkeys : (Table.keys members).Nodup) (h : decode (.object members) = .ok n) {i : Nat}
    (hm : (n.block block)[i]? = some m) :
    ∃ items j, Table.get? members block.name = some (.list items) ∧ items[i]? = some j ∧
      decode j = .ok m := by
  have hblock : block ≠ .top := by
    rintro rfl
    cases hm
  rw [decode] at h
  obtain ⟨f, hf, hn⟩ := Except.bind_eq_ok h
  have hsame : n.block block = f.block block := by
    rw [NodeFields.toNode] at hn
    split at hn
    · rw [← Except.ok.inj hn]
      cases block <;> rfl
    · cases hn
  -- The blocks that a node starts from are empty, so there is a member for this one.
  rw [hsame] at hm
  rcases block_decodeMembers hblock hkeys hf with ⟨hnone, -⟩ | ⟨items, hget, hitems⟩
  · rw [hnone] at hm
    cases block <;> cases hm
  · obtain ⟨j, hj, hdecode⟩ := exists_getElem?_of_decodeList hitems hm
    exact ⟨items, j, hget, hj, hdecode⟩

end Node

/-- In the document of a node, an address leads to the document of the node that it leads to. -/
theorem Json.below?_decode {address : Address} {j : Json} {n m : Node} (hplain : Node.Plain j)
    (hn : Node.decode j = .ok n) (h : Node.below? address n = some m) :
    ∃ found, below? address j = some found ∧ Node.decode found = .ok m := by
  induction address generalizing j n with
  | nil => exact ⟨j, rfl, by rw [hn, Option.some.inj h]⟩
  | cons step rest ih =>
    obtain ⟨block, i⟩ := step
    obtain ⟨k, hk, hbelow⟩ := Option.bind_eq_some_iff.mp h
    cases hplain with
    | @mk members hkeys hsteps =>
      obtain ⟨items, item, hget, hitem, hdecode⟩ := Node.exists_item_of_decode hkeys hn hk
      have hmember : (object members).member? block.name = some (.list items) := hget
      have hitems := hsteps block items (Table.mem_of_get? hget)
      obtain ⟨found, hfound, hm⟩ :=
        ih (hitems item (List.mem_of_getElem? hitem)) hdecode hbelow
      refine ⟨found, ?_, hm⟩
      rw [below?_cons hmember, hitem]
      exact hfound

namespace Workflow

/-- The nodes of a document are written as objects, and no member of them twice. -/
def Plain (document : Json) : Prop :=
  ∀ items, document.member? "nodes" = some (.list items) → ∀ j ∈ items, Node.Plain j

variable {document : Json} {w : Workflow} {address : Address} {n : Node}

/-- In the document of a workflow, an address leads to the document of the node that stands
there. -/
theorem below?_document (hplain : Plain document) (h : ofJson document = .ok w)
    (hn : w.nodeAt? address = some n) :
    ∃ found, Json.below? address document = some found ∧ Node.decode found = .ok n := by
  rcases address with _ | ⟨⟨block, i⟩, rest⟩
  · cases hn
  cases block with
  | body | thenSteps | elseSteps => cases hn
  | top =>
    obtain ⟨k, hk, hbelow⟩ := Option.bind_eq_some_iff.mp hn
    obtain ⟨items, hnodes, hitems⟩ := exists_nodes_of_ofJson h
    obtain ⟨item, hitem, hdecode⟩ := Node.exists_getElem?_of_decodeList hitems hk
    obtain ⟨found, hfound, hm⟩ :=
      Json.below?_decode (hplain items hnodes item (List.mem_of_getElem? hitem)) hdecode hbelow
    refine ⟨found, ?_, hm⟩
    rw [Json.below?_cons hnodes, hitem]
    exact hfound

end Workflow

end AgentWorkflow
