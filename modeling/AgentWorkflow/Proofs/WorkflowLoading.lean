/-
The two ways from a file to a workflow.

* `Workflow.ofCheckedJson` — the way of a project: a document that says what its nodes are has
  to keep the rules, and then it is decoded.
* `Workflow.MisstatesNodes` — a document says what its nodes are, but they are no list.
* `Workflow.nodes_cases` — what a document can say of its nodes.
* `Project.loads_alike` — the two ways accept the same files with the same workflows, and they
  differ at the misstated nodes alone.

Design notes: one way asks whether there are nodes, the other whether there is a list of them.
The documents are told apart by the answers to both questions, and there are three kinds: no
nodes, a list of nodes, and nodes that are no list.
-/
import AgentWorkflow.Project
import AgentWorkflow.Proofs.WorkflowSchema

namespace AgentWorkflow

/-! ### Failures -/

/-- A document that breaks the rules is refused with words of its own. -/
theorem Schema.validate_ne_missingNodes (document : Json) :
    validate document ≠ .error (Failure.of .missingNodes) := by
  intro h
  unfold validate at h
  split at h
  · cases h
  · cases h

namespace Workflow

/-- That a file cannot be read is never told as nodes that are missing. -/
theorem readDocument_ne_missingNodes (disk : Disk) (path : Option String) :
    readDocument disk path ≠ .error (Failure.of .missingNodes) := by
  intro h
  rcases path with _ | path
  · cases h
  change (Outcome.ofOs ("read workflow " ++ path) (disk.readText path) >>= fun raw =>
    Outcome.ofJson ("parse workflow " ++ path) (Json.parse raw)) = _ at h
  rcases hread : disk.readText path with e | raw
  · rw [hread] at h
    cases h
  · rw [hread] at h
    change Outcome.ofJson ("parse workflow " ++ path) (Json.parse raw) = _ at h
    rcases hparse : Json.parse raw with e | document
    · rw [hparse] at h
      cases h
    · rw [hparse] at h
      cases h

/-! ### Documents without a list of nodes -/

/-- A document says what its nodes are, but they are no list. -/
def MisstatesNodes (document : Json) : Prop :=
  ∃ nodes, document.member? "nodes" = some nodes ∧ nodes.list? = none

theorem hasNodes_eq_true_iff {document : Json} :
    hasNodes document = true ↔ ∃ items, document.member? "nodes" = some (.list items) := by
  unfold hasNodes
  split
  · next items hitems => simp [hitems]
  · next hother => simpa using hother

theorem hasNodes_of_none {document : Json} (h : document.member? "nodes" = none) :
    hasNodes document = false := by
  rw [hasNodes, h]

theorem MisstatesNodes.hasNodes_eq {document : Json} (h : MisstatesNodes document) :
    hasNodes document = false := by
  obtain ⟨nodes, hmember, hlist⟩ := h
  refine Bool.eq_false_iff.mpr fun hhas => ?_
  obtain ⟨items, hitems⟩ := hasNodes_eq_true_iff.mp hhas
  rw [hmember] at hitems
  cases hitems
  cases hlist

/-- A document says nothing of nodes, or it has a list of them, or it misstates them. -/
theorem nodes_cases (document : Json) :
    document.member? "nodes" = none ∨ hasNodes document = true ∨ MisstatesNodes document := by
  rcases hmember : document.member? "nodes" with _ | nodes
  · exact .inl rfl
  · rcases hlist : nodes.list? with _ | items
    · exact .inr (.inr ⟨nodes, hmember, hlist⟩)
    · cases nodes with
      | list items => exact .inr (.inl (hasNodes_eq_true_iff.mpr ⟨items, hmember⟩))
      | null | bool | number | text | object => cases hlist

/-- Nodes that are no list break the rules. -/
theorem MisstatesNodes.exists_validate {document : Json} (h : MisstatesNodes document) :
    ∃ f, Schema.validate document = .error f := by
  obtain ⟨nodes, hmember, hlist⟩ := h
  rcases hvalid : Schema.validate document with f | ⟨⟩
  · exact ⟨f, rfl⟩
  · have hfits : Schema.Fits document := (Schema.validate_eq_ok_iff document).mp hvalid
    cases hfits with
    | mk hname hnodes hgiven =>
      obtain ⟨items, rfl, -⟩ := hnodes nodes (Table.mem_of_get? hmember)
      cases hlist

/-! ### The two ways -/

/-- The workflow of a document, when one that says what its nodes are has to keep the rules. -/
def ofCheckedJson (document : Json) : Outcome Workflow := do
  if (document.member? "nodes").isSome then Schema.validate document
  ofJson document

theorem ofJson_of_lacks {document : Json} (h : hasNodes document = false) :
    ofJson document = .error (Failure.of .missingNodes) := by
  rw [ofJson, h]
  rfl

theorem ofValidJson_of_lacks {document : Json} (h : hasNodes document = false) :
    ofValidJson document = .error (Failure.of .missingNodes) := by
  rw [ofValidJson, h]
  rfl

theorem ofCheckedJson_of_none {document : Json} (h : document.member? "nodes" = none) :
    ofCheckedJson document = .error (Failure.of .missingNodes) := by
  rw [ofCheckedJson, h]
  exact ofJson_of_lacks (hasNodes_of_none h)

theorem ofCheckedJson_of_some {document nodes : Json}
    (h : document.member? "nodes" = some nodes) :
    ofCheckedJson document = Schema.validate document >>= fun _ => ofJson document := by
  rw [ofCheckedJson, h]
  rfl

theorem ofValidJson_of_hasNodes {document : Json} (h : hasNodes document = true) :
    ofValidJson document = Schema.validate document >>= fun _ => ofJson document := by
  rw [ofValidJson, if_pos h]

/-- With a list of nodes the two ways do the same. -/
theorem ofCheckedJson_of_hasNodes {document : Json} (h : hasNodes document = true) :
    ofCheckedJson document = ofValidJson document := by
  obtain ⟨items, hitems⟩ := hasNodes_eq_true_iff.mp h
  exact (ofCheckedJson_of_some hitems).trans (ofValidJson_of_hasNodes h).symm

/-- A list of nodes keeps the rules or not and is decoded or not, but it is not missing. -/
theorem ofValidJson_ne_missingNodes {document : Json} (h : hasNodes document = true) :
    ofValidJson document ≠ .error (Failure.of .missingNodes) := by
  intro hmissing
  rw [ofValidJson_of_hasNodes h] at hmissing
  rcases hrules : Schema.validate document with f | ⟨⟩
  · rw [hrules] at hmissing
    change (Except.error f : Outcome Workflow) = _ at hmissing
    cases hmissing
    exact Schema.validate_ne_missingNodes document hrules
  · rw [hrules] at hmissing
    change ofJson document = _ at hmissing
    rw [ofJson, if_pos h] at hmissing
    rcases hdecode : decode document with e | w
    · rw [hdecode] at hmissing
      cases hmissing
    · rw [hdecode] at hmissing
      cases hmissing

/-- Misstated nodes are refused on the way of a project, but not as missing. -/
theorem MisstatesNodes.exists_ofCheckedJson {document : Json} (h : MisstatesNodes document) :
    ∃ f, ofCheckedJson document = .error f ∧ f ≠ Failure.of .missingNodes := by
  obtain ⟨f, hf⟩ := h.exists_validate
  obtain ⟨nodes, hmember, -⟩ := h
  refine ⟨f, ?_, ?_⟩
  · rw [ofCheckedJson_of_some hmember, hf]
    rfl
  · rintro rfl
    exact Schema.validate_ne_missingNodes document hf

/-- The two ways tell a document alike unless it misstates its nodes. -/
theorem ofCheckedJson_ne_ofValidJson_iff {document : Json} :
    ofCheckedJson document ≠ ofValidJson document ↔ MisstatesNodes document := by
  constructor
  · intro hne
    rcases nodes_cases document with hnone | hhas | hmisstates
    · rw [ofCheckedJson_of_none hnone, ofValidJson_of_lacks (hasNodes_of_none hnone)] at hne
      exact absurd rfl hne
    · exact absurd (ofCheckedJson_of_hasNodes hhas) hne
    · exact hmisstates
  · intro hmisstates heq
    obtain ⟨f, hf, hwords⟩ := hmisstates.exists_ofCheckedJson
    rw [hf, ofValidJson_of_lacks hmisstates.hasNodes_eq] at heq
    exact hwords (Except.error.inj heq)

/-- The two ways accept a document with the same workflow. -/
theorem ofCheckedJson_eq_ok_iff {document : Json} {w : Workflow} :
    ofCheckedJson document = .ok w ↔ ofValidJson document = .ok w := by
  by_cases hmisstates : MisstatesNodes document
  · obtain ⟨f, hf, -⟩ := hmisstates.exists_ofCheckedJson
    simp [hf, ofValidJson_of_lacks hmisstates.hasNodes_eq]
  · have hsame : ofCheckedJson document = ofValidJson document :=
      Classical.not_not.mp (mt ofCheckedJson_ne_ofValidJson_iff.mp hmisstates)
    rw [hsame]

theorem ofValidJson_eq_missingNodes_iff {document : Json} :
    ofValidJson document = .error (Failure.of .missingNodes) ↔ hasNodes document = false := by
  constructor
  · intro hmissing
    exact Bool.eq_false_iff.mpr fun hhas => ofValidJson_ne_missingNodes hhas hmissing
  · exact ofValidJson_of_lacks

theorem ofCheckedJson_eq_missingNodes_iff {document : Json} :
    ofCheckedJson document = .error (Failure.of .missingNodes) ↔
      document.member? "nodes" = none := by
  constructor
  · intro hmissing
    rcases nodes_cases document with hnone | hhas | hmisstates
    · exact hnone
    · rw [ofCheckedJson_of_hasNodes hhas] at hmissing
      exact absurd hmissing (ofValidJson_ne_missingNodes hhas)
    · obtain ⟨f, hf, hwords⟩ := hmisstates.exists_ofCheckedJson
      rw [hf] at hmissing
      exact absurd (Except.error.inj hmissing) hwords
  · exact ofCheckedJson_of_none

end Workflow

/-! ### Files -/

namespace Project

open Workflow (readDocument hasNodes ofJson MisstatesNodes ofCheckedJson ofValidJson)

theorem ofJson_workflowDocument (p : Project) (disk : Disk) (chosen : Option String) :
    (p.workflowDocument disk chosen >>= ofJson) =
      readDocument disk ((chosen.or p.config.workflowPath).map p.path) >>= ofCheckedJson := by
  unfold workflowDocument ofCheckedJson
  rcases readDocument disk ((chosen.or p.config.workflowPath).map p.path) with f | document
  · rfl
  · rcases hmember : document.member? "nodes" with _ | nodes
    · simp [bind, Except.bind, pure, Except.pure, hmember]
    · rcases hrules : Schema.validate document with f | ⟨⟩
      · simp [bind, Except.bind, hmember, hrules]
      · simp [bind, Except.bind, pure, Except.pure, hmember, hrules]

/-- The two ways to load a workflow accept the same files with the same workflow.  The second
one finds the nodes missing in exactly the documents without a list of nodes, the first one in
those that say nothing of nodes.  So the two are the same but for documents whose nodes are no
list, and these are refused on both ways. -/
theorem loads_alike (p : Project) (disk : Disk) (chosen : Option String) :
    let path := (chosen.or p.config.workflowPath).map p.path
    let decoded := p.workflowDocument disk chosen >>= ofJson
    let loaded := Workflow.load disk path
    (∀ w, decoded = .ok w ↔ loaded = .ok w) ∧
      (loaded = .error (Failure.of .missingNodes) ↔
        ∃ document, readDocument disk path = .ok document ∧ hasNodes document = false) ∧
      (decoded = .error (Failure.of .missingNodes) ↔
        ∃ document, readDocument disk path = .ok document ∧ document.member? "nodes" = none) ∧
      (decoded ≠ loaded ↔
        ∃ document, readDocument disk path = .ok document ∧ MisstatesNodes document) := by
  intro path decoded loaded
  have hdecoded : decoded = readDocument disk path >>= ofCheckedJson :=
    ofJson_workflowDocument p disk chosen
  have hloaded : loaded = readDocument disk path >>= ofValidJson := rfl
  rw [hdecoded, hloaded]
  rcases hread : readDocument disk path with f | document
  · -- A file that cannot be read is refused alike, and not for its nodes.
    have hf : f ≠ Failure.of .missingNodes := by
      rintro rfl
      exact Workflow.readDocument_ne_missingNodes disk path hread
    simp [bind, Except.bind, hf]
  · have hchecked : (Except.ok document : Outcome Json) >>= ofCheckedJson =
        ofCheckedJson document := rfl
    have hvalid : (Except.ok document : Outcome Json) >>= ofValidJson =
        ofValidJson document := rfl
    rw [hchecked, hvalid]
    refine ⟨fun w => Workflow.ofCheckedJson_eq_ok_iff, ?_, ?_, ?_⟩
    · simpa using Workflow.ofValidJson_eq_missingNodes_iff
    · simpa using Workflow.ofCheckedJson_eq_missingNodes_iff
    · simpa using Workflow.ofCheckedJson_ne_ofValidJson_iff

/-- A file whose nodes are a number: the second way finds them missing, the first way does not. -/
theorem loads_differ_misstated :
    let p : Project := ⟨"/", Config.standard⟩
    let disk := Disk.put default ["flow.json"] (.file (Text.encode "\x7b\"nodes\": 3\x7d"))
    let path := some (p.path "flow.json")
    (∃ document, readDocument disk path = .ok document ∧ hasNodes document = false) ∧
      Workflow.load disk path = .error (Failure.of .missingNodes) ∧
      (p.workflowDocument disk (some "flow.json") >>= ofJson) ≠
        .error (Failure.of .missingNodes) := by
  intro p disk path
  have hsome : (readDocument disk path).toOption.any (fun document =>
      (document.member? "nodes").any fun nodes => nodes.list?.isNone) = true := by
    decide +kernel
  obtain ⟨document, hdocument, hnodes⟩ := (Option.any_eq_true _ _).mp hsome
  obtain ⟨nodes, hmember, hlist⟩ := (Option.any_eq_true _ _).mp hnodes
  have hread : readDocument disk path = .ok document := by
    rcases hfile : readDocument disk path with f | found
    · rw [hfile] at hdocument
      cases hdocument
    · rw [hfile] at hdocument
      exact congrArg Except.ok (Option.some.inj hdocument)
  have hmisstates : MisstatesNodes document := ⟨nodes, hmember, by simpa using hlist⟩
  refine ⟨⟨document, hread, hmisstates.hasNodes_eq⟩, ?_, ?_⟩
  · change (readDocument disk path >>= ofValidJson) = _
    rw [hread]
    exact Workflow.ofValidJson_of_lacks hmisstates.hasNodes_eq
  · rw [ofJson_workflowDocument]
    change (readDocument disk path >>= ofCheckedJson) ≠ _
    rw [hread]
    change ofCheckedJson document ≠ _
    obtain ⟨f, hf, hwords⟩ := hmisstates.exists_ofCheckedJson
    rw [hf]
    exact fun h => hwords (Except.error.inj h)

end Project

end AgentWorkflow
