/-
What a walk over a workflow reports.

* `Workflow.InDepthOrder` — the nodes of a workflow, each of them once, in depth-first order.
  There is one such list (`Workflow.InDepthOrder.unique`).
* `Workflow.ReadsBack` — a path leads to a node: in the workflow, in what is written of it, and in
  its document.
* `Workflow.Reported`, `Workflow.Unresolved` — the node that is meant when something is reported.
* `Workflow.walk_identifies` — a walk comes by every node once and in order, its paths are different
  and read back, and so whatever is reported with a path is about one node.

Design notes: a line of a check is a path, a colon and a message.  There is no colon in a path, so a
line is cut at its first one, whatever the message says.
-/
import AgentWorkflow.Proofs.DocumentPaths

namespace AgentWorkflow.Workflow

variable {w : Workflow} {registered : String → Bool} {address : Address} {n : Node}

/-! ### The order of a walk -/

/-- Nodes with their addresses: every node of a workflow, once, in depth-first order. -/
structure InDepthOrder (w : Workflow) (visits : List (Address × Node)) : Prop where
  complete : ∀ address n, (address, n) ∈ visits ↔ w.nodeAt? address = some n
  once : (visits.map Prod.fst).Nodup
  ordered : visits.Pairwise fun u v => Address.Precedes u.1 v.1

theorem inDepthOrder_visits (w : Workflow) : w.InDepthOrder w.visits where
  complete _ _ := mem_visits_iff
  once := w.nodup_addresses
  ordered := w.pairwise_visits

theorem InDepthOrder.unique {visits visits' : List (Address × Node)} (h : w.InDepthOrder visits)
    (h' : w.InDepthOrder visits') : visits = visits' := by
  have hsame : ∀ visit : Address × Node, visit ∈ visits ↔ visit ∈ visits' := fun visit =>
    (h.complete visit.1 visit.2).trans (h'.complete visit.1 visit.2).symm
  -- Depth-first order is asymmetric, and so it sorts what has the same members in one way only.
  have hperm : visits.Perm visits' :=
    (List.perm_ext_iff_of_nodup h.once.of_map h'.once.of_map).mpr hsame
  exact hperm.eq_of_pairwise (fun _ _ _ _ hab hba => absurd hba hab.asymm) h.ordered h'.ordered

/-! ### Paths that are read back -/

/-- The node that a path leads to. -/
def readPath? (w : Workflow) (path : String) : Option Node :=
  (Address.ofPath? path).bind w.nodeAt?

/-- A path leads to a node, and in documents to what stands for it. -/
structure ReadsBack (w : Workflow) (path : String) (n : Node) : Prop where
  node : w.readPath? path = some n
  written : w.toJson.readPath? path = some n.toJson
  document : ∀ document, Plain document → ofJson document = .ok w →
    ∃ found, document.readPath? path = some found ∧ Node.decode found = .ok n

theorem readsBack_path (h : w.nodeAt? address = some n) :
    w.ReadsBack (Address.path address) n := by
  have hne := ne_nil_of_nodeAt? h
  refine ⟨?_, ?_, fun document hplain hdocument => ?_⟩
  · rw [readPath?, Address.ofPath?_path hne, Option.bind_some, h]
  · rw [Json.readPath?_path hne, below?_toJson h]
  · rw [Json.readPath?_path hne]
    exact below?_document hplain hdocument h

/-! ### What is reported -/

/-- A line of a check tells what is wrong with the node at an address. -/
def Reported (registered : String → Bool) (w : Workflow) (line : String) (address : Address) :
    Prop :=
  ∃ n, w.nodeAt? address = some n ∧ ∃ issue ∈ nodeIssues registered n,
    line = Address.path address ++ ": " ++ issue.message

/-- A path and a type are those of the node at an address, and no plugin stands for the type. -/
def Unresolved (registered : String → Bool) (w : Workflow) (entry : String × String)
    (address : Address) : Prop :=
  ∃ n, w.nodeAt? address = some n ∧ n.kind = .plugin entry.2 ∧ registered entry.2 = false ∧
    entry.1 = Address.path address

theorem exists_reported {line : String} (h : line ∈ w.issues registered) :
    ∃ address, w.Reported registered line address := by
  obtain ⟨⟨path, issue⟩, hissue, rfl⟩ := List.mem_map.mp h
  obtain ⟨⟨path', n⟩, hwalk, hmem⟩ := List.mem_flatMap.mp hissue
  obtain ⟨issue', hwrong, heq⟩ := List.mem_map.mp hmem
  obtain ⟨rfl, rfl⟩ := Prod.mk.inj heq
  obtain ⟨address, hn, rfl⟩ := mem_walk_iff.mp hwalk
  exact ⟨address, n, hn, issue', hwrong, rfl⟩

/-- The path of a line ends at its first colon. -/
theorem Reported.unique {line : String} {a b : Address} (ha : w.Reported registered line a)
    (hb : w.Reported registered line b) : a = b := by
  obtain ⟨n, hn, issue, -, hline⟩ := ha
  obtain ⟨m, hm, issue', -, hline'⟩ := hb
  have hne := ne_nil_of_nodeAt? hn
  have hne' := ne_nil_of_nodeAt? hm
  have hlist : (Address.path a).toList ++ ':' :: (' ' :: issue.message.toList) =
      (Address.path b).toList ++ ':' :: (' ' :: issue'.message.toList) := by
    have heq := congrArg String.toList (hline.symm.trans hline')
    simpa using heq
  have hpath := Text.eq_of_append_cons (Address.colon_not_mem_path hne)
    (Address.colon_not_mem_path hne') hlist
  exact Address.path_inj hne hne' (String.toList_inj.mp hpath)

theorem exists_unresolved {entry : String × String} (h : entry ∈ w.unregistered registered) :
    ∃ address, w.Unresolved registered entry address := by
  obtain ⟨⟨path, n⟩, hwalk, hentry⟩ := List.mem_filterMap.mp h
  obtain ⟨address, hn, rfl⟩ := mem_walk_iff.mp hwalk
  refine ⟨address, n, hn, ?_⟩
  dsimp only at hentry
  split at hentry
  · next type hkind =>
    split at hentry
    · cases hentry
    · next hnone =>
      rw [← Option.some.inj hentry]
      exact ⟨hkind, Bool.eq_false_iff.mpr hnone, rfl⟩
  · cases hentry

theorem Unresolved.unique {entry : String × String} {a b : Address}
    (ha : w.Unresolved registered entry a) (hb : w.Unresolved registered entry b) : a = b := by
  obtain ⟨n, hn, -, -, hpath⟩ := ha
  obtain ⟨m, hm, -, -, hpath'⟩ := hb
  exact Address.path_inj (ne_nil_of_nodeAt? hn) (ne_nil_of_nodeAt? hm) (hpath.symm.trans hpath')

/-- A walk comes by every node of a workflow, once and in depth-first order, and calls each by
another path.  A path that is read from the top leads to the node that it was reported with.  So
every line of a check, and every node that no plugin stands for, is reported of one node. -/
theorem walk_identifies (w : Workflow) :
    (∃ visits, w.InDepthOrder visits ∧
      w.walk = visits.map fun visit => (Address.path visit.1, visit.2)) ∧
    (w.walk.map Prod.fst).Nodup ∧
    (∀ path n, (path, n) ∈ w.walk → w.ReadsBack path n) ∧
    ∀ registered : String → Bool,
      (∀ line ∈ w.issues registered, ∃! address, w.Reported registered line address) ∧
      ∀ entry ∈ w.unregistered registered, ∃! address, w.Unresolved registered entry address := by
  refine ⟨⟨w.visits, w.inDepthOrder_visits, w.walk_eq⟩, w.nodup_paths, fun path n h => ?_,
    fun registered => ⟨fun line h => ?_, fun entry h => ?_⟩⟩
  · obtain ⟨address, hn, rfl⟩ := mem_walk_iff.mp h
    exact readsBack_path hn
  · obtain ⟨address, hreported⟩ := exists_reported h
    exact ⟨address, hreported, fun other hother => hother.unique hreported⟩
  · obtain ⟨address, hunresolved⟩ := exists_unresolved h
    exact ⟨address, hunresolved, fun other hother => hother.unique hunresolved⟩

/-- Steps of a branch in the body of a loop that are the same plugin, one of them in each arm. -/
theorem walk_identifies_nested :
    let leaf : Node := .plugin "utils.not"
    let w : Workflow := ⟨none, [.mk { type := "loop" }
      [.mk { type := "branch" } [] [leaf] [leaf]] [] []]⟩
    let arm := "nodes[0].body[0].else_steps[0]"
    w.ReadsBack arm leaf ∧
      (∃! address, w.Reported (fun _ => false) (arm ++ ": unknown node type 'utils.not'") address) ∧
      ∃! address, w.Unresolved (fun _ => false) (arm, "utils.not") address := by
  intro leaf w arm
  have hwalk : (arm, leaf) ∈ w.walk := List.mem_of_getElem? (i := 3) rfl
  have hline : arm ++ ": unknown node type 'utils.not'" ∈ w.issues fun _ => false :=
    List.mem_of_getElem? (i := 1) rfl
  have hentry : (arm, "utils.not") ∈ w.unregistered fun _ => false :=
    List.mem_of_getElem? (i := 1) rfl
  obtain ⟨-, -, hread, hreports⟩ := walk_identifies w
  obtain ⟨hlines, hentries⟩ := hreports fun _ => false
  exact ⟨hread _ _ hwalk, hlines _ hline, hentries _ hentry⟩

end AgentWorkflow.Workflow
