/-
Workflows and the documents they are written to.

* `Node.All` — every node of a tree says something that has a property.
* `NodeHead.Definite` — nothing is said with null; `Node.definite_of_decode` — so it is
  throughout a node that is decoded.
* `Node.decode_toJson` — a node that says nothing with null is read back as it was written.
* `Workflow.ofJson_toJson` — the workflow of a document is read back from what is written of it.

Design notes: writing leaves out what has its standard value, and reading starts from the
standard values (`NodeFields.start`).  The two fit together member by member, with one
exception: a field that may hold any value loses a null.  No node that was decoded holds one, so
the round trip is shown of the nodes that hold none.
-/
import AgentWorkflow.Proofs.Decoding
import AgentWorkflow.Workflow.Codec

namespace AgentWorkflow

open Json (Mismatch)
open Json.Decode

/-! ### What is said throughout a tree -/

/-- Every node of a tree says something that has a property. -/
inductive Node.All (P : NodeHead → Prop) : Node → Prop
  | mk {h : NodeHead} {body thenSteps elseSteps : List Node} (hhead : P h)
    (hbody : ∀ n ∈ body, Node.All P n) (hthen : ∀ n ∈ thenSteps, Node.All P n)
    (helse : ∀ n ∈ elseSteps, Node.All P n) :
    Node.All P (.mk h body thenSteps elseSteps)

/-- What the fields met so far say has a property, and so does what their nodes say. -/
structure NodeFields.All (P : NodeHead → Prop) (f : NodeFields) : Prop where
  head : P f.head
  body : ∀ n ∈ f.body, n.All P
  thenSteps : ∀ n ∈ f.thenSteps, n.All P
  elseSteps : ∀ n ∈ f.elseSteps, n.All P

namespace NodeFields.All

variable {P : NodeHead → Prop} {f : NodeFields}

theorem start (h : P NodeFields.start.head) : NodeFields.start.All P :=
  ⟨h, nofun, nofun, nofun⟩

theorem putSteps (hf : f.All P) {steps : List Node} (hsteps : ∀ n ∈ steps, n.All P)
    (name : String) : (f.putSteps name steps).All P := by
  unfold NodeFields.putSteps
  split
  · exact { hf with body := hsteps }
  · exact { hf with thenSteps := hsteps }
  · exact { hf with elseSteps := hsteps }
  · exact hf

theorem toNode (hf : f.All P) {untyped : Mismatch} {n : Node} (h : f.toNode untyped = .ok n) :
    n.All P := by
  rw [NodeFields.toNode] at h
  split at h
  · rw [← Except.ok.inj h]
    exact .mk hf.head hf.body hf.thenSteps hf.elseSteps
  · cases h

end NodeFields.All

/-! ### What is decoded is definite -/

/-- No field that may hold any value holds null. -/
structure NodeHead.Definite (h : NodeHead) : Prop where
  «when» : h.when ≠ some .null
  maxIterations : h.maxIterations ≠ some .null
  stopWhen : h.stopWhen ≠ some .null
  stopOn : h.stopOn ≠ some .null

theorem NodeFields.definite_start : NodeFields.start.All NodeHead.Definite :=
  .start ⟨nofun, nofun, nofun, nofun⟩

/-- A field that is taken holds no null, and the others stay as they are. -/
theorem NodeFields.definite_put {f f' : NodeFields} {name : String} {j : Json}
    (hf : f.All NodeHead.Definite) (h : f.put name j = .ok f') :
    f'.All NodeHead.Definite := by
  obtain ⟨⟨hwhen, hmax, hstopWhen, hstopOn⟩, hbody, hthen, helse⟩ := hf
  unfold NodeFields.put at h
  split at h
  case h_3 =>
    -- Inputs are an object or refused; there is no decoder to succeed.
    split at h
    · cases h
      exact ⟨⟨hwhen, hmax, hstopWhen, hstopOn⟩, hbody, hthen, helse⟩
    · cases h
  case h_11 =>
    cases h
    exact ⟨⟨hwhen, hmax, hstopWhen, hstopOn⟩, hbody, hthen, helse⟩
  all_goals
    obtain ⟨value, hvalue, h⟩ := Except.bind_eq_ok h
    cases h
    refine ⟨⟨?_, ?_, ?_, ?_⟩, hbody, hthen, helse⟩
  all_goals first | assumption | exact ne_null_of_nullable hvalue

-- The recursion is that of the decoder, with one theorem for each of its functions.
mutual

/-- A node that is decoded says nothing with null, and neither do the nodes below it. -/
theorem Node.definite_of_decode : ∀ {j : Json} {n : Node}, Node.decode j = .ok n →
    n.All NodeHead.Definite
  | .object members, n, h => by
    rw [Node.decode] at h
    obtain ⟨f, hf, hn⟩ := Except.bind_eq_ok h
    exact (Node.definite_of_decodeMembers NodeFields.definite_start hf).toNode hn
  | .list items, n, h => by
    rw [Node.decode] at h
    obtain ⟨f, hf, h⟩ := Except.bind_eq_ok h
    obtain ⟨n', hn, h⟩ := Except.bind_eq_ok h
    obtain ⟨⟨⟩, -, h⟩ := Except.bind_eq_ok h
    rw [← Except.ok.inj h]
    exact (Node.definite_of_decodeItems NodeFields.definite_start hf).toNode hn
  | .null, n, h | .bool _, n, h | .number _, n, h | .text _, n, h => nomatch h

theorem Node.definite_of_decodeMembers {f f' : NodeFields} (hf : f.All NodeHead.Definite) :
    ∀ {members : List (String × Json)}, Node.decodeMembers f members = .ok f' →
      f'.All NodeHead.Definite
  | [], h => Except.ok.inj h ▸ hf
  | (name, j) :: rest, h => by
    rw [Node.decodeMembers] at h
    obtain ⟨g, hg, h⟩ := Except.bind_eq_ok h
    exact Node.definite_of_decodeMembers (Node.definite_of_decodeField hf hg) h

theorem Node.definite_of_decodeItems {f f' : NodeFields} (hf : f.All NodeHead.Definite) :
    ∀ {names : List String} {items : List Json}, Node.decodeItems f names items = .ok f' →
      f'.All NodeHead.Definite
  | _, [], h => Except.ok.inj h ▸ hf
  | [], _ :: _, h => Except.ok.inj h ▸ hf
  | name :: names, j :: rest, h => by
    rw [Node.decodeItems] at h
    obtain ⟨g, hg, h⟩ := Except.bind_eq_ok h
    exact Node.definite_of_decodeItems (Node.definite_of_decodeField hf hg) h

theorem Node.definite_of_decodeField {f f' : NodeFields} (hf : f.All NodeHead.Definite)
    {name : String} : ∀ {j : Json}, Node.decodeField f name j = .ok f' →
      f'.All NodeHead.Definite
  | .list items, h => by
    rw [Node.decodeField] at h
    split at h
    · obtain ⟨steps, hsteps, h⟩ := Except.bind_eq_ok h
      rw [← Except.ok.inj h]
      exact hf.putSteps (Node.definite_of_decodeList hsteps) name
    · exact NodeFields.definite_put hf h
  | .null, h | .bool _, h | .number _, h | .text _, h | .object _, h => by
    rw [Node.decodeField] at h
    · split at h
      · cases h
      · exact NodeFields.definite_put hf h
    · exact nofun

theorem Node.definite_of_decodeList : ∀ {items : List Json} {steps : List Node},
    Node.decodeList items = .ok steps → ∀ n ∈ steps, n.All NodeHead.Definite
  | [], steps, h => by
    rw [← Except.ok.inj h]
    exact nofun
  | j :: rest, steps, h => by
    rw [Node.decodeList] at h
    obtain ⟨n, hn, h⟩ := Except.bind_eq_ok h
    obtain ⟨more, hmore, h⟩ := Except.bind_eq_ok h
    rw [← Except.ok.inj h]
    exact List.forall_mem_cons.mpr ⟨Node.definite_of_decode hn, Node.definite_of_decodeList hmore⟩

end

/-! ### Reading back what was written -/

namespace Node

theorem listToJson_eq (nodes : List Node) : listToJson nodes = nodes.map toJson := by
  induction nodes with
  | nil => rfl
  | cons n rest ih => rw [listToJson, ih, List.map_cons]

theorem decodeList_eq (js : List Json) : decodeList js = items decode js := by
  induction js with
  | nil => rfl
  | cons j rest ih => rw [decodeList, items, ih]

theorem decodeList_listToJson {nodes : List Node} (h : ∀ n ∈ nodes, decode n.toJson = .ok n) :
    decodeList (listToJson nodes) = .ok nodes := by
  rw [decodeList_eq, listToJson_eq]
  exact items_map_of_mem h

theorem decodeField_eq_put {name : String} (hname : ¬NodeFields.stepNames.contains name)
    (f : NodeFields) (j : Json) : decodeField f name j = f.put name j := by
  unfold decodeField
  split
  · rw [if_neg hname]
  · rw [if_neg hname]

section Members

variable {f g k : NodeFields}

/-- Members are taken one after the other. -/
theorem decodeMembers_append {members more : List (String × Json)}
    (hmembers : decodeMembers f members = .ok g) (hmore : decodeMembers g more = .ok k) :
    decodeMembers f (members ++ more) = .ok k := by
  induction members generalizing f with
  | nil =>
    rw [Except.ok.inj hmembers]
    exact hmore
  | cons entry rest ih =>
    obtain ⟨name, j⟩ := entry
    rw [decodeMembers] at hmembers
    obtain ⟨f', hfield, hrest⟩ := Except.bind_eq_ok hmembers
    rw [List.cons_append, decodeMembers, hfield]
    exact ih hrest

/-- Steps are read back as a member when they are read back one by one. -/
theorem decodeMembers_stepsMember (name : String) (hname : NodeFields.stepNames.contains name)
    {steps : List Node} (hsteps : ∀ n ∈ steps, decode n.toJson = .ok n)
    (hstart : f.putSteps name [] = f) :
    decodeMembers f (stepsMember name steps) = .ok (f.putSteps name steps) := by
  cases steps with
  -- No steps are not written, and the fields hold none to begin with.
  | nil => rw [hstart, stepsMember, decodeMembers]
  | cons n rest =>
    have hlist := decodeList_listToJson hsteps
    rw [listToJson] at hlist
    rw [stepsMember, decodeMembers, decodeField, if_pos hname, hlist]
    rfl

/-- A member that is left out when there is no value is read back when its value is.  `set`
says which field of the node it is. -/
theorem decodeMembers_memberOf? {α : Type} {read : Json.Decoder α} (name : String)
    (hname : ¬NodeFields.stepNames.contains name) (set : NodeHead → Option α → NodeHead)
    (hput : ∀ (f : NodeFields) j,
      f.put name j = (nullable read j).map fun value => { f with head := set f.head value })
    {written : Option Json} {value : Option α}
    (hread : written.elim (.ok none) (nullable read) = .ok value)
    (hstart : set f.head none = f.head) :
    decodeMembers f (Json.memberOf? name written) =
      .ok { f with head := set f.head value } := by
  cases written with
  | none =>
    -- Nothing is read, so the field has to have no value from the start.
    rw [← Except.ok.inj hread, hstart]
    rfl
  | some j =>
    have hj : nullable read j = .ok value := hread
    rw [Json.memberOf?, decodeMembers, decodeField_eq_put hname, hput, hj]
    rfl

theorem read_text (value : Option String) :
    (value.map Json.text).elim (.ok none) (nullable string) = .ok value := by
  cases value <;> rfl

theorem read_any {value : Option Json} (h : value ≠ some .null) :
    value.elim (.ok none) (nullable Except.ok) = .ok value := by
  cases value with
  | none => rfl
  | some j => exact nullable_of_ne_null fun hj => h (congrArg some hj)

theorem read_textTable (value : Option (Table String)) :
    (value.map fun t => Json.object (Table.mapValues .text t)).elim (.ok none)
      (nullable (mapOf string)) = .ok value := by
  cases value with
  | none => rfl
  | some t =>
    show (members string (Table.mapValues .text t)).map some = _
    rw [members_mapValues]
    rfl

/-- A node that is not disabled does not say so. -/
theorem decodeMembers_disabled (hstart : f.head.disabled = false) (disabled : Bool) :
    decodeMembers f (if disabled then [("disabled", .bool true)] else []) =
      .ok { f with head := { f.head with disabled } } := by
  cases disabled with
  | false =>
    show Except.ok f = .ok { f with head := { f.head with disabled := false } }
    rw [← hstart]
  | true => rfl

/-- Inputs are left out when there are none. -/
theorem decodeMembers_inputs (hstart : f.head.inputs = []) (inputs : Inputs) :
    decodeMembers f (if inputs.isEmpty then [] else [("inputs", .object inputs)]) =
      .ok { f with head := { f.head with inputs } } := by
  cases inputs with
  | nil =>
    show Except.ok f = .ok { f with head := { f.head with inputs := [] } }
    rw [← hstart]
  | cons => rfl

theorem decodeMembers_type (type : String) :
    decodeMembers f [("type", .text type)] =
      .ok { f with head := { f.head with type }, typed := true } := rfl

end Members

/-- A node that says nothing with null is read back as it was written. -/
theorem decode_toJson {n : Node} (hn : n.All NodeHead.Definite) : decode n.toJson = .ok n := by
  induction hn with
  | @mk h body thenSteps elseSteps hhead _ _ _ hbody hthen helse =>
  obtain ⟨type, id, inputs, outputs, «when», disabled, maxIterations, stopWhen, stopOn,
    outputKey⟩ := h
  obtain ⟨hwhen, hmax, hstopWhen, hstopOn⟩ := hhead
  -- The members stand in the order of their names, and each is taken by the fields so far.
  have fields := decodeMembers_stepsMember (f := .start) "body" rfl hbody rfl
  replace fields := decodeMembers_append fields (decodeMembers_disabled rfl disabled)
  replace fields := decodeMembers_append fields
    (decodeMembers_stepsMember "else_steps" rfl helse rfl)
  replace fields := decodeMembers_append fields
    (decodeMembers_memberOf? "id" (by decide) (fun h id => { h with id }) (fun _ _ => rfl)
      (read_text id) rfl)
  replace fields := decodeMembers_append fields (decodeMembers_inputs rfl inputs)
  replace fields := decodeMembers_append fields
    (decodeMembers_memberOf? "max_iterations" (by decide)
      (fun h maxIterations => { h with maxIterations }) (fun _ _ => rfl) (read_any hmax) rfl)
  replace fields := decodeMembers_append fields
    (decodeMembers_memberOf? "output_key" (by decide)
      (fun h outputKey => { h with outputKey }) (fun _ _ => rfl) (read_text outputKey) rfl)
  replace fields := decodeMembers_append fields
    (decodeMembers_memberOf? "outputs" (by decide)
      (fun h outputs => { h with outputs }) (fun _ _ => rfl) (read_textTable outputs) rfl)
  replace fields := decodeMembers_append fields
    (decodeMembers_memberOf? "stop_on" (by decide)
      (fun h stopOn => { h with stopOn }) (fun _ _ => rfl) (read_any hstopOn) rfl)
  replace fields := decodeMembers_append fields
    (decodeMembers_memberOf? "stop_when" (by decide)
      (fun h stopWhen => { h with stopWhen }) (fun _ _ => rfl) (read_any hstopWhen) rfl)
  replace fields := decodeMembers_append fields
    (decodeMembers_stepsMember "then_steps" rfl hthen rfl)
  replace fields := decodeMembers_append fields (decodeMembers_type type)
  replace fields := decodeMembers_append fields
    (decodeMembers_memberOf? "when" (by decide)
      (fun h value => { h with «when» := value }) (fun _ _ => rfl) (read_any hwhen) rfl)
  rw [toJson, decode, fields]
  rfl

end Node

namespace Workflow

variable {document : Json} {w : Workflow}

/-! ### Documents -/

theorem ofJson_eq_ok (h : ofJson document = .ok w) :
    hasNodes document = true ∧ decode document = .ok w := by
  unfold ofJson at h
  split at h
  · next hnodes =>
    rcases hdecode : decode document with e | w'
    · rw [hdecode] at h
      cases h
    · rw [hdecode] at h
      rw [Except.ok.inj h]
      exact ⟨hnodes, rfl⟩
  · cases h

/-- The nodes of a workflow are decoded from the list of nodes of its document. -/
theorem exists_nodes_of_ofJson (h : ofJson document = .ok w) :
    ∃ items, document.member? "nodes" = some (.list items) ∧
      Node.decodeList items = .ok w.nodes := by
  have hdecode := (ofJson_eq_ok h).2
  rw [decode] at hdecode
  obtain ⟨name, -, hdecode⟩ := Except.bind_eq_ok hdecode
  obtain ⟨nodes?, hfield, hdecode⟩ := Except.bind_eq_ok hdecode
  obtain ⟨nodes, hrequired, hdecode⟩ := Except.bind_eq_ok hdecode
  obtain ⟨j, hget, hlist⟩ := required_field?_eq_ok hfield hrequired
  rw [← Except.ok.inj hdecode]
  split at hlist
  · next items =>
    refine ⟨items, ?_, hlist⟩
    cases document with
    | object members => exact hget
    | null | bool | number | text | list => cases hget
  · cases hlist

/-- The nodes of a document say nothing with null. -/
theorem definite_of_ofJson (h : ofJson document = .ok w) :
    ∀ n ∈ w.nodes, n.All NodeHead.Definite := by
  obtain ⟨items, -, hitems⟩ := exists_nodes_of_ofJson h
  exact Node.definite_of_decodeList hitems

/-- A workflow whose nodes say nothing with null is read back as it was written. -/
theorem ofJson_toJson_of_definite (hw : ∀ n ∈ w.nodes, n.All NodeHead.Definite) :
    ofJson w.toJson = .ok w := by
  obtain ⟨name, nodes⟩ := w
  have hnodes : Node.decodeList (Node.listToJson nodes) = .ok nodes :=
    Node.decodeList_listToJson fun n hn => Node.decode_toJson (hw n hn)
  -- The name may be left out, which is all that its two cases differ in.
  have hread (name? : Option (Option String)) (hname : name?.join = name) :
      (do
        let nodes ← (Node.decodeList (Node.listToJson nodes)).map some
        let nodes ← required "nodes" nodes
        pure ⟨name?.join, nodes⟩ : Except Mismatch Workflow) = .ok ⟨name, nodes⟩ := by
    rw [hnodes, hname]
    rfl
  have hdecode : decode (toJson ⟨name, nodes⟩) = .ok ⟨name, nodes⟩ := by
    cases name with
    | none => exact hread none rfl
    | some name => exact hread (some (some name)) rfl
  have hhas : hasNodes (toJson ⟨name, nodes⟩) = true := by
    cases name <;> rfl
  rw [ofJson, if_pos hhas, hdecode]
  rfl

/-- What is written of the workflow that a document holds. -/
def rewritten (document : Json) : Outcome Json := (ofJson document).map toJson

/-- The workflow of a document is read back from what is written of it, and writing it once more
changes nothing. -/
theorem ofJson_toJson (h : ofJson document = .ok w) :
    ofJson w.toJson = .ok w ∧ rewritten w.toJson = .ok w.toJson := by
  have hread := ofJson_toJson_of_definite (definite_of_ofJson h)
  refine ⟨hread, ?_⟩
  rw [rewritten, hread]
  rfl

/-- Nodes that are lists of their fields, fields that are null, and members that a node does not
have. -/
theorem ofJson_toJson_lists :
    let document : Json := .object [
      ("name", .null),
      ("nodes", .list [
        .list [.text "outer", .text "loop", .object [], .null, .text "$go", .bool false,
          .list [
            .object [
              ("comment", .text "inner"),
              ("id", .null),
              ("stop_on", .null),
              ("then_steps", .list [.list [.null, .text "utils.not"]]),
              ("type", .text "branch")]],
          Json.nat 3]]),
      ("version", Json.nat 1)]
    let w : Workflow := ⟨none, [
      .mk { type := "loop", id := some "outer", «when» := some (.text "$go"),
            maxIterations := some (Json.nat 3) }
        [.mk { type := "branch" } [] [.mk { type := "utils.not" } [] [] []] []] [] []]⟩
    ofJson document = .ok w ∧ ofJson w.toJson = .ok w ∧ rewritten w.toJson = .ok w.toJson := by
  intro document w
  have hdocument : ofJson document = .ok w := rfl
  exact ⟨hdocument, ofJson_toJson hdocument⟩

end Workflow

end AgentWorkflow
