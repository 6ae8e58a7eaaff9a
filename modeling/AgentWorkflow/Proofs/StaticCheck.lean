/-
What a check of a workflow tells about its runs.

* `Workflow.unknownTypes` — the nodes that a check reports for their types.
* `Workflow.unregistered_eq` — that a workflow can be resolved is decided by the same nodes.
* `Visit.passedOver?` — a run passed over a node whose type no plugin stands for, and
  `Workflow.Reaches.tallied` — the report lists the types of these visits.
* `Workflow.limitOf_of_unchecked` — a limit that a check finds no fault with is of use.
* `Workflow.CheckCovers` — what a check finds before a run covers what the run meets;
  `Workflow.checkCovers` shows it of every workflow.

Design notes: the check walks over all nodes, a run comes to some of them.  A run stands at
an address when it looks at a node, and every address is walked over
(`Workflow.mem_walk_of_nodeAt?`), so nothing is said here about paths of execution.
-/
import AgentWorkflow.Proofs.MachineRuns

namespace AgentWorkflow

open Machine

namespace Workflow

/-! ### What a check reports -/

/-- The type that an issue complains of. -/
def Issue.unknownType? : Issue → Option String
  | .unknownType type => some type
  | .emptyBody | .badLimit _ | .unknownMode _ | .noArms | .blankKey _ => none

/-- The paths and the types of the nodes that a check reports for their types. -/
def unknownTypes (registered : String → Bool) (w : Workflow) : List (String × String) :=
  (w.issuesAt registered).filterMap fun issue =>
    issue.2.unknownType?.map fun type => (issue.1, type)

/-- Among what a check tells are the types of these nodes with their paths, in order. -/
theorem unknownTypes_sublist (registered : String → Bool) (w : Workflow) :
    List.Sublist
      ((w.unknownTypes registered).map fun node =>
        node.1 ++ ": " ++ (Issue.unknownType node.2).message)
      (w.issues registered) := by
  unfold unknownTypes issues
  induction w.issuesAt registered with
  | nil => exact List.Sublist.refl []
  | cons entry rest ih =>
    obtain ⟨path, issue⟩ := entry
    cases issue with
    | unknownType type => exact ih.cons_cons _
    | emptyBody | badLimit | unknownMode | noArms | blankKey => exact ih.cons _

theorem unknownType?_limitIssues (h : NodeHead) :
    (limitIssues h).filterMap Issue.unknownType? = [] := by
  unfold limitIssues
  split
  · rfl
  · split
    · rfl
    · rfl

theorem unknownType?_modeIssues (h : NodeHead) :
    (modeIssues h).filterMap Issue.unknownType? = [] := by
  unfold modeIssues
  split
  · split
    · rfl
    · rfl
  · rfl

theorem unknownType?_outputIssues (h : NodeHead) :
    (outputIssues h).filterMap Issue.unknownType? = [] := by
  unfold outputIssues
  split
  · rfl
  · rw [List.filterMap_map]
    exact List.filterMap_eq_nil_iff.mpr fun _ _ => rfl

/-- The type of a node is complained of if it names a plugin that is not there. -/
theorem unknownType?_nodeIssues (registered : String → Bool) (n : Node) :
    (nodeIssues registered n).filterMap Issue.unknownType? =
      match n.kind with
      | .plugin type => if registered type then [] else [type]
      | .loop | .branch => [] := by
  unfold nodeIssues
  rw [List.filterMap_append, unknownType?_outputIssues, List.append_nil]
  cases n.kind with
  | loop =>
    dsimp only
    rw [List.filterMap_append, unknownType?_limitIssues, List.append_nil]
    split
    · rfl
    · rfl
  | branch =>
    dsimp only
    rw [List.filterMap_append, unknownType?_modeIssues, List.nil_append]
    split
    · rfl
    · rfl
  | plugin type =>
    dsimp only
    split
    · rfl
    · rfl

/-- That a workflow can be resolved is decided by the nodes that a check reports. -/
theorem unregistered_eq (registered : String → Bool) (w : Workflow) :
    w.unregistered registered = w.unknownTypes registered := by
  unfold unregistered unknownTypes issuesAt
  induction w.walk with
  | nil => rfl
  | cons entry rest ih =>
    obtain ⟨path, n⟩ := entry
    have hnode : ((nodeIssues registered n).map fun i => (path, i)).filterMap
          (fun issue => issue.2.unknownType?.map fun type => (issue.1, type)) =
        ((nodeIssues registered n).filterMap Issue.unknownType?).map fun type => (path, type) := by
      rw [List.filterMap_map, List.map_filterMap]
      rfl
    rw [List.flatMap_cons, List.filterMap_append, ← ih, hnode, unknownType?_nodeIssues,
      List.filterMap_cons]
    dsimp only
    rcases n.kind with _ | _ | type
    · rfl
    · rfl
    · dsimp only
      by_cases hregistered : registered type = true
      · rw [if_pos hregistered, if_pos hregistered]
        rfl
      · rw [if_neg hregistered, if_neg hregistered]
        rfl

/-- A node whose type no plugin stands for is reported. -/
theorem mem_unknownTypes {registered : String → Bool} {w : Workflow} {path type : String}
    {n : Node} (hwalk : (path, n) ∈ w.walk) (hkind : n.kind = .plugin type)
    (hnone : registered type = false) : (path, type) ∈ w.unknownTypes registered := by
  rw [← unregistered_eq]
  refine List.mem_filterMap.mpr ⟨_, hwalk, ?_⟩
  dsimp only
  rw [hkind]
  simp [hnone]

/-- The limit of a loop that a check finds no fault with is of use, unless it is bound to the
store. -/
theorem limitOf_of_unchecked {registered : String → Bool} {w : Workflow} {path : String}
    {n : Node} (hissues : w.issues registered = []) (hwalk : (path, n) ∈ w.walk)
    (hkind : n.kind = .loop) (hliteral : n.head.LimitIsLiteral) (store : Store) :
    ∃ limit, limitOf n.head store = .ok limit := by
  have hnode : nodeIssues registered n = [] := by
    have hall : w.issuesAt registered = [] := List.map_eq_nil_iff.mp hissues
    have hmap := List.flatMap_eq_nil_iff.mp hall _ hwalk
    exact List.map_eq_nil_iff.mp hmap
  have hlimit : limitIssues n.head = [] := by
    unfold nodeIssues at hnode
    rw [hkind] at hnode
    have happend := (List.append_eq_nil_iff.mp hnode).1
    exact (List.append_eq_nil_iff.mp happend).2
  -- The check and the run look at the same setting; without a binding it is what it says.
  unfold limitIssues at hlimit
  unfold limitOf
  rcases hraw : n.head.maxIterationsSetting with _ | raw
  · exact ⟨_, rfl⟩
  · rw [hraw] at hlimit
    dsimp only at hlimit ⊢
    rw [settingValue_eq (hliteral raw hraw)]
    rw [hliteral raw hraw] at hlimit
    rcases hcount : raw.count? with _ | limit
    · rw [hcount] at hlimit
      simp at hlimit
    · exact ⟨limit, rfl⟩

end Workflow

/-! ### What a run passes over -/

/-- The type of a node that was passed over because no plugin stands for it. -/
def Visit.passedOver? (v : Visit) : Option String :=
  match v.fate with
  | .unregistered => some v.head.type
  | .disabled | .unmet | .entered _ | .decided _ | .undecided _ | .called _ | .failed _ => none

theorem Visit.passedOver?_eq_some {v : Visit} {type : String} (h : v.passedOver? = some type) :
    v.fate = .unregistered ∧ v.head.type = type := by
  unfold passedOver? at h
  split at h
  · next hfate => exact ⟨hfate, Option.some.inj h⟩
  all_goals cases h

section

variable {session : Session} {registry : Registry} {w : Workflow} {world : World} {s : State}

/-- The report lists the types of the nodes that were passed over, and no plugin stands for
them. -/
structure Machine.State.Tallied (registry : Registry) (s : State) : Prop where
  unresolved : ∀ report, s.outcome = .ok report →
    report.unresolved = s.visits.filterMap Visit.passedOver?
  missing : ∀ v ∈ s.visits, v.fate = .unregistered →
    v.head.kind = .plugin v.head.type ∧ Table.get? registry v.head.type = none

/-- Where a run comes to a node, the report grows by the type of a node that is passed
over. -/
theorem Machine.Meets.unresolved_eq {address : Address} {n : Node} {entry : Nat}
    {report report' : Report} {v v' : World} {fate : Fate} {tasks : List Task}
    (h : Meets session registry address n entry report v fate tasks (.ok report') v') :
    report'.unresolved = report.unresolved ++
      [Visit.mk address n.head v.store fate].filterMap Visit.passedOver? := by
  cases h with
  | unregistered _ hkind =>
    rw [← NodeHead.type_of_kind hkind]
    rfl
  | disabled | unmet | entered | decided | called => exact (List.append_nil _).symm

theorem Machine.Meets.missing {address : Address} {n : Node} {entry : Nat} {report : Report}
    {v v' : World} {tasks : List Task} {outcome : Outcome Report}
    (h : Meets session registry address n entry report v .unregistered tasks outcome v') :
    n.head.kind = .plugin n.head.type ∧ Table.get? registry n.head.type = none := by
  cases h with
  | unregistered _ hkind hget =>
    rw [NodeHead.type_of_kind hkind]
    exact ⟨hkind, hget⟩

theorem Machine.Moves.tallied {s s' : State} (h : Moves session registry s s')
    (hs : s.Tallied registry) : s'.Tallied registry := by
  rcases h.visit_or_turn with ⟨address, n, report, fate, tasks, -, hok, h, hvisits, -⟩ | hturned
  · refine ⟨fun report' hreport' => ?_, fun v hv hfate => ?_⟩
    · rw [hreport'] at h
      rw [h.unresolved_eq, hvisits, List.filterMap_append, hs.unresolved report hok]
    · rw [hvisits] at hv
      rcases List.mem_append.mp hv with hv | hv
      · exact hs.missing v hv hfate
      · obtain rfl := List.mem_singleton.mp hv
        dsimp only at hfate
        rw [hfate] at h
        exact h.missing
  · obtain ⟨report, report', hok, hok', hunresolved, -⟩ := hturned.report
    refine ⟨fun report'' hreport'' => ?_, fun v hv => hs.missing v (hturned.visits ▸ hv)⟩
    rw [hok', Except.ok.injEq] at hreport''
    rw [← hreport'', hunresolved, hturned.visits]
    exact hs.unresolved report hok

theorem Workflow.Reaches.tallied (h : w.Reaches session registry world s) :
    s.Tallied registry := by
  refine h.invariant ⟨fun report hreport => ?_, fun v hv => absurd hv List.not_mem_nil⟩
    fun _ _ _ hmove => hmove.tallied
  cases hreport
  rfl

/-- What a run passed over is what a check reports. -/
theorem Workflow.Reaches.mem_unknownTypes (h : w.Reaches session registry world s) {v : Visit}
    (hv : v ∈ s.visits) (hfate : v.fate = .unregistered) :
    ∃ path, (path, v.head.type) ∈ w.unknownTypes (Table.contains registry) := by
  obtain ⟨n, hn, hhead⟩ := h.placed.visits v hv
  obtain ⟨path, hwalk⟩ := mem_walk_of_nodeAt? hn
  obtain ⟨hkind, hget⟩ := h.tallied.missing v hv hfate
  rw [← hhead] at hkind hget ⊢
  refine ⟨path, Workflow.mem_unknownTypes hwalk hkind ?_⟩
  unfold Table.contains
  rw [hget]
  rfl

end

/-! ### What a check covers -/

/-- Where a run comes to a loop with a limit that is of use, no note is taken. -/
theorem Machine.Meets.site_eq {session : Session} {registry : Registry} {address : Address}
    {n : Node} {entry : Nat} {report : Report} {v v' : World} {fate : Fate} {tasks : List Task}
    {outcome : Outcome Report}
    (h : Meets session registry address n entry report v fate tasks outcome v')
    (hkind : n.kind = .loop) (hlimit : ∃ limit, Workflow.limitOf n.head v.store = .ok limit) :
    v'.site = v.site := by
  cases h with
  | disabled | unmet => rfl
  | entered _ _ hown =>
    obtain ⟨site, heq, hsite, -⟩ := Workflow.loopLimit_eq n.head v.store v
    rw [hown] at heq
    rw [(Prod.mk.inj heq).2]
    exact hsite hlimit
  | decided _ hkind' | undecided _ hkind' | unregistered _ hkind' | called _ hkind'
  | failed _ hkind' =>
    rw [hkind] at hkind'
    cases hkind'

namespace Workflow

/-- What a check finds in a workflow covers what its runs meet. -/
structure CheckCovers (session : Session) (registry : Registry) (w : Workflow) : Prop where
  /-- That a workflow can be resolved fails with the nodes that a check reports for their
  types, in order. -/
  resolvable : w.ensureResolvable (Table.contains registry) =
    match w.unknownTypes (Table.contains registry) with
    | [] => .ok ()
    | nodes => .error (Failure.of (.unknownNodeTypes nodes))
  /-- The check tells of each of them, in order. -/
  told : List.Sublist
    ((w.unknownTypes (Table.contains registry)).map fun node =>
      node.1 ++ ": " ++ (Issue.unknownType node.2).message)
    (w.issues (Table.contains registry))
  /-- The types that a run could not resolve are among them. -/
  unresolved : ∀ world report world', (run session registry w).run world = (.ok report, world') →
    ∀ type ∈ report.unresolved,
      ∃ path, (path, type) ∈ w.unknownTypes (Table.contains registry)
  /-- When the workflow can be resolved, no run passes over a node for its type. -/
  resolved : w.ensureResolvable (Table.contains registry) = .ok () →
    ∀ world s, w.Reaches session registry world s → ∀ v ∈ s.visits, v.fate ≠ .unregistered
  /-- When nothing is reported, the visit to a loop whose limit is not bound to the store takes
  no note. -/
  limits : w.issues (Table.contains registry) = [] →
    ∀ world s s', w.Reaches session registry world s → Moves session registry s s' →
      ∀ address n rest, s.agenda = .visit address n :: rest → n.kind = .loop →
        n.head.LimitIsLiteral → s'.world.site = s.world.site

/-- What a check finds covers what a run meets, for every workflow, on every registry and in
every session. -/
theorem checkCovers (session : Session) (registry : Registry) (w : Workflow) :
    w.CheckCovers session registry := by
  have hresolvable : w.ensureResolvable (Table.contains registry) =
      match w.unknownTypes (Table.contains registry) with
      | [] => .ok ()
      | nodes => .error (Failure.of (.unknownNodeTypes nodes)) := by
    rw [← unregistered_eq]
    rfl
  refine ⟨hresolvable, unknownTypes_sublist _ w, fun world report world' hrun type htype => ?_,
    fun hok world s hs v hv hfate => ?_, fun hissues world s s' hs hmove address n rest
      hagenda hkind hliteral => ?_⟩
  · -- The report at the end lists the visits that were passed over.
    obtain ⟨s, hs, -, hend⟩ := reaches_end session registry w world
    rw [hrun, Prod.mk.injEq] at hend
    rw [hs.tallied.unresolved report hend.1] at htype
    obtain ⟨v, hv, hpassed⟩ := List.mem_filterMap.mp htype
    obtain ⟨hfate, rfl⟩ := Visit.passedOver?_eq_some hpassed
    exact hs.mem_unknownTypes hv hfate
  · obtain ⟨path, hmem⟩ := hs.mem_unknownTypes hv hfate
    rw [hresolvable] at hok
    rcases hnodes : w.unknownTypes (Table.contains registry) with _ | ⟨entry, nodes⟩
    · rw [hnodes] at hmem
      exact absurd hmem List.not_mem_nil
    · rw [hnodes] at hok
      cases hok
  · cases hmove with
    | visit h =>
      cases hagenda
      obtain ⟨path, hwalk⟩ := mem_walk_of_nodeAt? (hs.placed.tasks _ List.mem_cons_self)
      exact h.site_eq hkind (limitOf_of_unchecked hissues hwalk hkind hliteral _)
    | pass | spent | stop | again => cases hagenda

end Workflow

end AgentWorkflow
