/-
Independent nodes, in either order.

* `NodeHead.reads`, `NodeHead.writes` — the keys that a node looks up in the store, and those that
  its map of outputs writes under; `NodeHead.Independent` — two nodes that keep off each other's.
* `Store.put_comm` — entries under different keys may be put in either order.
* `NodeHead.due` — what a node is to write whose plugin only computes (`NodeHead.Computes`), with
  `NodeHead.due_congr`, that it goes by what the node reads alone.
* `Workflow.run_computingNode` — such a node writes what is due.
* `Workflow.independent_commute` — so two independent ones may be run in either order.

Design notes: whether a node is run at all, what its plugin answers and whether it fails are all
told by what is due of it in view of a store.  What an independent node writes does not change that,
so both orders are compared by what is due in view of the store that they start from.
-/
import AgentWorkflow.Proofs.PluginNode
import AgentWorkflow.Rehearsal

namespace AgentWorkflow

/-! ### What a node reads and what it writes -/

namespace NodeHead

/-- The keys of the store that the inputs and the condition of a node are bound to. -/
def reads (h : NodeHead) : List String :=
  h.inputs.filterMap (fun entry => Store.binding? entry.2) ++ (h.when.bind Store.binding?).toList

/-- The keys of the store that the outputs of a node are written under. -/
def writes (h : NodeHead) : List String := (h.outputs.getD []).map Prod.snd

theorem mem_reads_of_input {h : NodeHead} {entry : String × Json} {key : String}
    (hentry : entry ∈ h.inputs) (hkey : Store.binding? entry.2 = some key) : key ∈ h.reads :=
  List.mem_append_left _ (List.mem_filterMap.mpr ⟨entry, hentry, hkey⟩)

theorem mem_reads_of_when {h : NodeHead} {condition : Json} {key : String}
    (hwhen : h.when = some condition) (hkey : Store.binding? condition = some key) :
    key ∈ h.reads := by
  refine List.mem_append_right _ ?_
  rw [hwhen]
  exact Option.mem_toList.mpr hkey

/-- With a map of outputs a node writes under the keys of the map alone. -/
theorem mem_writes_of_mem_entries {h : NodeHead} (houtputs : h.outputs ≠ none)
    {results : Table Json} {entry : String × Json} (hentry : entry ∈ h.entries results) :
    entry.1 ∈ h.writes := by
  obtain ⟨outputs, houtputs⟩ := Option.ne_none_iff_exists'.mp houtputs
  unfold entries at hentry
  unfold writes
  rw [houtputs] at hentry ⊢
  obtain ⟨output, houtput, rfl⟩ := List.mem_map.mp hentry
  exact List.mem_map_of_mem houtput

end NodeHead

/-- Neither of two nodes writes what the other one reads, and they do not write under one key. -/
structure NodeHead.Independent (a b : NodeHead) : Prop where
  writes : ∀ key ∈ a.writes, key ∉ b.writes
  left : ∀ key ∈ b.writes, key ∉ a.reads
  right : ∀ key ∈ a.writes, key ∉ b.reads

theorem NodeHead.Independent.symm {a b : NodeHead} (h : a.Independent b) : b.Independent a :=
  ⟨fun key hb ha => h.writes key ha hb, h.right, h.left⟩

/-! ### Stores -/

namespace Store

theorem get?_put_of_not_mem {entries : List (String × Json)} {key : String}
    (h : ∀ entry ∈ entries, entry.1 ≠ key) (s : Store) (writer : String) :
    (s.put writer entries).get? key = s.get? key := by
  induction entries generalizing s with
  | nil => rfl
  | cons entry rest ih =>
    obtain ⟨hentry, hrest⟩ := List.forall_mem_cons.mp h
    exact (ih hrest _).trans ((get?_insertFrom s writer _ _ key).trans (if_neg hentry.symm))

theorem insertFrom_comm (s : Store) {a b : String} (hne : a ≠ b) (writer writer' : String)
    (x y : Json) :
    ((s.insertFrom writer a x).2.insertFrom writer' b y).2 =
      ((s.insertFrom writer' b y).2.insertFrom writer a x).2 := by
  unfold insertFrom
  dsimp only
  rw [Table.insert_comm s.values hne, Table.insert_comm s.writers hne]

theorem insertFrom_put_comm {entries : List (String × Json)} {key : String}
    (h : ∀ entry ∈ entries, entry.1 ≠ key) (s : Store) (writer writer' : String) (value : Json) :
    ((s.insertFrom writer key value).2).put writer' entries =
      ((s.put writer' entries).insertFrom writer key value).2 := by
  induction entries generalizing s with
  | nil => rfl
  | cons entry rest ih =>
    obtain ⟨hentry, hrest⟩ := List.forall_mem_cons.mp h
    unfold put
    rw [insertFrom_comm s hentry.symm, ih hrest]

/-- Entries under different keys may be put in either order. -/
theorem put_comm {entries entries' : List (String × Json)}
    (h : ∀ entry ∈ entries, ∀ entry' ∈ entries', entry.1 ≠ entry'.1) (s : Store)
    (writer writer' : String) :
    (s.put writer entries).put writer' entries' = (s.put writer' entries').put writer entries := by
  induction entries generalizing s with
  | nil => rfl
  | cons entry rest ih =>
    obtain ⟨hentry, hrest⟩ := List.forall_mem_cons.mp h
    show ((s.insertFrom writer entry.1 entry.2).2.put writer rest).put writer' entries' =
      ((s.put writer' entries').insertFrom writer entry.1 entry.2).2.put writer rest
    rw [ih hrest, insertFrom_put_comm fun entry' hentry' => (hentry entry' hentry').symm]

end Store

/-! ### What a node is to write -/

namespace NodeHead

/-- What a node is to write whose plugin only computes, in view of a store: nothing when it is
passed over. -/
def due (f : Inputs → Outcome Json) (h : NodeHead) (s : Store) :
    Outcome (Option (List (String × Json))) :=
  if h.disabled || !Workflow.admits h s then .ok none
  else (f (s.resolveInputs h.inputs)).map fun result => some (h.entries result.outputs)

variable {f : Inputs → Outcome Json} {h : NodeHead}

theorem mem_writes_of_due (houtputs : h.outputs ≠ none) {s : Store}
    {entries : List (String × Json)} (hdue : h.due f s = .ok (some entries)) :
    ∀ entry ∈ entries, entry.1 ∈ h.writes := by
  unfold due at hdue
  split at hdue
  · cases hdue
  · rcases hf : f (s.resolveInputs h.inputs) with e | result
    · rw [hf] at hdue
      cases hdue
    · rw [hf] at hdue
      cases hdue
      exact fun entry hentry => mem_writes_of_mem_entries houtputs hentry

/-- What is due of a node goes by the keys that it reads. -/
theorem due_congr {s s' : Store} (hreads : ∀ key ∈ h.reads, s'.get? key = s.get? key) :
    h.due f s' = h.due f s := by
  have hresolve : ∀ {value : Json}, (∀ key, Store.binding? value = some key → key ∈ h.reads) →
      s'.resolve value = s.resolve value := by
    intro value hvalue
    unfold Store.resolve
    rcases hbinding : Store.binding? value with _ | key
    · rfl
    · exact hreads key (hvalue key hbinding)
  have hadmits : Workflow.admits h s' = Workflow.admits h s := by
    unfold Workflow.admits
    rcases hwhen : h.when with _ | condition
    · rfl
    · dsimp only
      rw [hresolve fun key hkey => mem_reads_of_when hwhen hkey]
  have hinputs : s'.resolveInputs h.inputs = s.resolveInputs h.inputs := by
    refine List.map_congr_left fun entry hentry => ?_
    dsimp only
    rw [hresolve fun key hkey => mem_reads_of_input hentry hkey]
  unfold due
  rw [hadmits, hinputs]

end NodeHead

/-- The store when a node has written what is due. -/
def Store.after (s : Store) (writer : String) (due : Option (List (String × Json))) : Store :=
  s.put writer (due.getD [])

/-- The report when a node has been run or passed over. -/
def Report.after (r : Report) : Option (List (String × Json)) → Report
  | some _ => r.execute
  | none => r.skip

theorem Report.after_comm (r : Report) (x y : Option (List (String × Json))) :
    (r.after x).after y = (r.after y).after x := by
  cases x <;> cases y <;> rfl

/-- In a registry a type of nodes stands for a plugin that only computes. -/
structure Registry.Computes (registry : Registry) (type : String) (f : Inputs → Outcome Json) :
    Prop where
  isPluginType : NodeHead.isPluginType type = true
  get? : Table.get? registry type = some (Plugin.ofFunction f)

/-- A node whose plugin only computes, and that has a map of outputs. -/
structure NodeHead.Computes (registry : Registry) (f : Inputs → Outcome Json) (h : NodeHead) :
    Prop where
  type : registry.Computes h.type f
  outputs : h.outputs ≠ none

namespace NodeHead

variable {registry : Registry} {f g : Inputs → Outcome Json} {a b : NodeHead}

/-- What is due of a node stays due when one that is independent of it has written. -/
theorem due_after (ha : a.Computes registry f) (hind : a.Independent b) {s : Store}
    {due : Option (List (String × Json))} (hdue : a.due f s = .ok due) :
    b.due g (s.after a.label due) = b.due g s := by
  rcases due with _ | entries
  · rfl
  · refine due_congr fun key hkey => Store.get?_put_of_not_mem (fun entry hentry heq => ?_) s _
    have hwrites := mem_writes_of_due ha.outputs hdue entry hentry
    rw [heq] at hwrites
    exact hind.right key hwrites hkey

/-- Of two independent nodes either one may write first. -/
theorem after_comm (ha : a.Computes registry f) (hb : b.Computes registry g)
    (hind : a.Independent b) {s : Store} {x y : Option (List (String × Json))}
    (hx : a.due f s = .ok x) (hy : b.due g s = .ok y) :
    (s.after a.label x).after b.label y = (s.after b.label y).after a.label x := by
  refine Store.put_comm (fun entry hentry entry' hentry' heq => ?_) s _ _
  rcases x with _ | entries
  · exact List.not_mem_nil hentry
  rcases y with _ | entries'
  · exact List.not_mem_nil hentry'
  have hwrites := mem_writes_of_due ha.outputs hx entry hentry
  rw [heq] at hwrites
  exact hind.writes _ hwrites (mem_writes_of_due hb.outputs hy entry' hentry')

end NodeHead

/-! ### Two nodes -/

namespace Workflow

variable {session : Session} {registry : Registry} {f g : Inputs → Outcome Json} {a b n : Node}

/-- A node whose plugin only computes, and that has a map of outputs, writes what is due and does
nothing else but that its call is recorded. -/
theorem run_computingNode (session : Session) (hn : n.head.Computes registry f) (report : Report)
    (v : World) :
    match n.head.due f v.store with
    | .error _ => ∃ e w, (runNode session registry n report).run v = (.error e, w)
    | .ok due => ∃ record, (runNode session registry n report).run v =
        (.ok (report.after due), ⟨v.site, v.store.after n.head.label due, record⟩) := by
  unfold NodeHead.due
  by_cases hskipped : n.head.disabled = true ∨ admits n.head v.store = false
  · rw [if_pos (by simpa using hskipped)]
    exact ⟨v.record, run_runNode_skipped hskipped⟩
  · obtain ⟨henabled, hmet⟩ : n.head.disabled = false ∧ admits n.head v.store = true := by
      simpa using hskipped
    have hkind : n.kind = .plugin n.head.type := NodeHead.kind_of_isPluginType hn.type.isPluginType
    rw [if_neg (by simpa using hskipped),
      run_runNode_admitted session registry report henabled hmet, hkind]
    dsimp only
    rw [run_runPlugin hn.type.get?]
    unfold Plugin.ofFunction
    dsimp only
    rw [Act.run_ofOutcome]
    rcases f (v.store.resolveInputs n.head.inputs) with e | result
    · exact ⟨_, _, rfl⟩
    · obtain ⟨outputs, houtputs⟩ := Option.ne_none_iff_exists'.mp hn.outputs
      dsimp only [Except.map]
      rw [run_writeResults_noted]
      unfold resultNotes
      rw [houtputs, List.reduceOption_nil, Site.noting_nil]
      exact ⟨_, rfl⟩

/-- Two independent nodes that have something due write it one after the other. -/
theorem run_independent_ok (session : Session) (ha : a.head.Computes registry f)
    (hb : b.head.Computes registry g) (hind : a.head.Independent b.head) (report : Report)
    {v : World} {x y : Option (List (String × Json))} (hx : a.head.due f v.store = .ok x)
    (hy : b.head.due g v.store = .ok y) :
    ∃ record, (runNodes session registry [a, b] report).run v =
      (.ok ((report.after x).after y),
        ⟨v.site, (v.store.after a.head.label x).after b.head.label y, record⟩) := by
  have hfirst := run_computingNode session ha report v
  rw [hx] at hfirst
  obtain ⟨record, hfirst⟩ := hfirst
  -- What the first node has written does not change what is due of the second one.
  have hsecond := run_computingNode session hb (report.after x)
    ⟨v.site, v.store.after a.head.label x, record⟩
  rw [NodeHead.due_after ha hind hx, hy] at hsecond
  obtain ⟨record', hsecond⟩ := hsecond
  exact ⟨record', (run_runNodes_ok hfirst).trans (run_runNodes_ok hsecond)⟩

/-- Two independent nodes succeed one after the other only when both have something due, or are
passed over, in view of the store that the first one finds. -/
theorem due_of_run_ok (ha : a.head.Computes registry f) (hb : b.head.Computes registry g)
    (hind : a.head.Independent b.head) {report report' : Report} {v w : World}
    (h : (runNodes session registry [a, b] report).run v = (.ok report', w)) :
    ∃ x y, a.head.due f v.store = .ok x ∧ b.head.due g v.store = .ok y := by
  have hfirst := run_computingNode session ha report v
  rcases hx : a.head.due f v.store with e | x
  · rw [hx] at hfirst
    obtain ⟨e, u, hfirst⟩ := hfirst
    rw [run_runNodes_error hfirst] at h
    cases h
  · rw [hx] at hfirst
    obtain ⟨record, hfirst⟩ := hfirst
    have hsecond := run_computingNode session hb (report.after x)
      ⟨v.site, v.store.after a.head.label x, record⟩
    rw [NodeHead.due_after ha hind hx] at hsecond
    rcases hy : b.head.due g v.store with e | y
    · rw [hy] at hsecond
      obtain ⟨e, u, hsecond⟩ := hsecond
      rw [run_runNodes_ok hfirst, run_runNodes_error hsecond] at h
      cases h
    · exact ⟨x, y, rfl, rfl⟩

/-- If two independent nodes succeed in one order, they succeed in the other one, with the same
report and the same store. -/
theorem run_swapped (ha : a.head.Computes registry f) (hb : b.head.Computes registry g)
    (hind : a.head.Independent b.head) {report report' : Report} {v w : World}
    (h : (runNodes session registry [a, b] report).run v = (.ok report', w)) :
    ∃ record, (runNodes session registry [b, a] report).run v =
      (.ok report', ⟨w.site, w.store, record⟩) := by
  obtain ⟨x, y, hx, hy⟩ := due_of_run_ok ha hb hind h
  obtain ⟨record, hrun⟩ := run_independent_ok session ha hb hind report hx hy
  obtain ⟨record', hswapped⟩ := run_independent_ok session hb ha hind.symm report hy hx
  rw [hrun] at h
  cases h
  rw [Report.after_comm, ← NodeHead.after_comm ha hb hind hx hy] at hswapped
  exact ⟨record', hswapped⟩

end Workflow

/-- The plugins on lists and truth values, which only compute, by their names. -/
def Plugin.functions : Table (Inputs → Outcome Json) := [
  ("utils.any", anyOf), ("utils.branch_condition", branchCondition),
  ("utils.filter_list", filterList), ("utils.map_list", mapList), ("utils.not", negate),
  ("utils.reduce_list", reduceList)]

theorem Registry.computes_functions :
    ∀ registry ∈ [builtin, ofNames standardNames], ∀ entry ∈ Plugin.functions,
      registry.Computes entry.1 entry.2 := by
  unfold Plugin.functions
  simp only [List.forall_mem_cons]
  have hnone : ∀ {α : Type} {P : α → Prop}, ∀ a ∈ ([] : List α), P a :=
    fun a h => absurd h List.not_mem_nil
  refine ⟨?_, ?_, hnone⟩
  · exact ⟨⟨rfl, rfl⟩, ⟨rfl, rfl⟩, ⟨rfl, rfl⟩, ⟨rfl, rfl⟩, ⟨rfl, rfl⟩, ⟨rfl, rfl⟩, hnone⟩
  · exact ⟨⟨rfl, rfl⟩, ⟨rfl, rfl⟩, ⟨rfl, rfl⟩, ⟨rfl, rfl⟩, ⟨rfl, rfl⟩, ⟨rfl, rfl⟩, hnone⟩

namespace Workflow

/-- Independent nodes commute.  In a registry where each plugin has its own name, the plugins on
lists and truth values only compute.  In any registry two nodes with maps of outputs whose plugins
only compute, neither of which writes what the other one reads or writes, succeed in one order just
in case they succeed in the other one, and then with the same report and the same store. -/
theorem independent_commute :
    (∀ registry ∈ [Registry.builtin, Registry.ofNames Registry.standardNames],
      ∀ entry ∈ Plugin.functions, registry.Computes entry.1 entry.2) ∧
    ∀ (session : Session) (registry : Registry) (a b : Node),
      (∃ f, registry.Computes a.head.type f) → (∃ g, registry.Computes b.head.type g) →
      a.head.outputs ≠ none → b.head.outputs ≠ none → a.head.Independent b.head →
      ∀ report v,
        let ab := (runNodes session registry [a, b] report).run v
        let ba := (runNodes session registry [b, a] report).run v
        ((∃ r, ab.1 = .ok r) ↔ ∃ r, ba.1 = .ok r) ∧
        ∀ r, ab.1 = .ok r → ba.1 = .ok r ∧ ba.2.store = ab.2.store ∧ ba.2.site = ab.2.site := by
  refine ⟨Registry.computes_functions, ?_⟩
  rintro session registry a b ⟨f, hf⟩ ⟨g, hg⟩ hoa hob hind report v
  dsimp only
  have ha : a.head.Computes registry f := ⟨hf, hoa⟩
  have hb : b.head.Computes registry g := ⟨hg, hob⟩
  refine ⟨⟨fun ⟨r, h⟩ => ?_, fun ⟨r, h⟩ => ?_⟩, fun r h => ?_⟩
  · obtain ⟨record, hba⟩ := run_swapped ha hb hind (Prod.ext h rfl)
    exact ⟨r, by rw [hba]⟩
  · obtain ⟨record, hab⟩ := run_swapped hb ha hind.symm (Prod.ext h rfl)
    exact ⟨r, by rw [hab]⟩
  · obtain ⟨record, hba⟩ := run_swapped ha hb hind (Prod.ext h rfl)
    rw [hba]
    exact ⟨rfl, rfl, rfl⟩

/-- A condition that is decided and a list that is filtered, over keys that the store holds. -/
theorem independent_commute_filter :
    let a : Node := .mk {
      type := "utils.branch_condition"
      inputs := [("value", .text "$draft")]
      outputs := some [("result", "ready"), ("reason", "why")]
      when := some (.text "$active") } [] [] []
    let b : Node := .mk {
      type := "utils.filter_list"
      inputs := [("items", .list [.text "alpha", .text "beta"]), ("pattern", .text "$draft")]
      outputs := some [("items", "found")] } [] [] []
    let session := Rehearsal.session ⟨false, false, false⟩ ⟨[]⟩ []
    let store := (((Store.empty.insert "active" (.bool true)).insert "draft"
      (.text "al")).insertFrom "before" "found" .null).2
    let v : World := ⟨Site.ofDisk default, store, []⟩
    let ab := (runNodes session Registry.builtin [a, b] Report.start).run v
    let ba := (runNodes session Registry.builtin [b, a] Report.start).run v
    a.head.Independent b.head ∧ ab.1 = .ok ⟨2, 0, [], 0, 0⟩ ∧
      ab.2.store.writer? "found" = some "utils.filter_list" ∧
      ba.1 = .ok ⟨2, 0, [], 0, 0⟩ ∧ ba.2.store = ab.2.store := by
  intro a b session store v ab ba
  have hind : a.head.Independent b.head := ⟨by decide, by decide, by decide⟩
  have hab : ab.1 = .ok ⟨2, 0, [], 0, 0⟩ := rfl
  obtain ⟨-, hcommute⟩ := independent_commute.2 session Registry.builtin a b
    ⟨Plugin.branchCondition, rfl, rfl⟩ ⟨Plugin.filterList, rfl, rfl⟩ nofun nofun hind Report.start v
  obtain ⟨hba, hstore, -⟩ := hcommute _ hab
  exact ⟨hind, hab, rfl, hba, hstore⟩

end Workflow

end AgentWorkflow
