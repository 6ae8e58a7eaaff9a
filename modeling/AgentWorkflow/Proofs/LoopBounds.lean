/-
How often the nodes of a workflow are run.

* `Machine.State.Rounded` — the passes that a visit to a loop has made and those that are
  left to it stay within the limit that it entered with.
* `NodeHead.mayAsk` — the nodes that may ask the model, and `Workflow.Reaches.requests_le` — the
  requests of a run are paid for by its visits.
* `Workflow.loopsWithin_once`, `Workflow.loopsWithin_literal` — what is known of the limits
  before a run.
* `Machine.State.Bounded` — the bounds on passes, visits and requests;
  `Workflow.Reaches.bounded` shows them of every state that a run comes through.

Design notes: passes are counted by visit and not by node, since a loop within a loop is
entered again and again, each time with a limit of its own.  How often a node is visited
follows from the budget of the workflow, with a weight that counts its visits.
-/
import AgentWorkflow.Proofs.MachineRuns
import AgentWorkflow.Proofs.Requests
import AgentWorkflow.Proofs.VisitBudget
import AgentWorkflow.Rehearsal

namespace AgentWorkflow

open Machine

/-! ### The passes of a visit -/

/-- How many passes a visit may make. -/
def Fate.limit : Fate → Nat
  | .entered limit => limit
  | .disabled | .unmet | .unregistered | .decided _ | .undecided _ | .called _ | .failed _ => 0

namespace Machine

/-- The passes that a task has left for a visit to a loop. -/
def Task.left (entry : Nat) : Task → Nat
  | .visit _ _ => 0
  | .goRound loop left | .look loop left => if loop.entry = entry then left else 0

/-- The passes that an agenda has left for a visit to a loop. -/
def leftOf (entry : Nat) (agenda : List Task) : Nat := (agenda.map (Task.left entry)).sum

/-- How many passes a visit may make, by its number. -/
def limitAt (visits : List Visit) (entry : Nat) : Nat :=
  (visits[entry]?.map fun v => v.fate.limit).getD 0

/-- The passes that a visit has made and those that are left to it stay within its limit. -/
def State.Rounded (s : State) : Prop :=
  ∀ entry, s.passes.count entry + leftOf entry s.agenda ≤ limitAt s.visits entry

theorem limitAt_concat (visits : List Visit) (v : Visit) (entry : Nat) :
    limitAt (visits ++ [v]) entry =
      limitAt visits entry + if visits.length = entry then v.fate.limit else 0 := by
  unfold limitAt
  rcases Nat.lt_trichotomy entry visits.length with hlt | rfl | hgt
  · rw [List.getElem?_append_left hlt, if_neg (by omega), Nat.add_zero]
  · simp
  · have hafter : visits.length + 1 ≤ entry := hgt
    rw [List.getElem?_eq_none (by simpa using hafter), List.getElem?_eq_none (by omega),
      if_neg (by omega)]
    rfl

section

variable {session : Session} {registry : Registry} {entry : Nat}

@[simp] theorem leftOf_nil : leftOf entry [] = 0 := rfl

@[simp] theorem leftOf_cons (t : Task) (rest : List Task) :
    leftOf entry (t :: rest) = t.left entry + leftOf entry rest := rfl

@[simp] theorem leftOf_append (tasks rest : List Task) :
    leftOf entry (tasks ++ rest) = leftOf entry tasks + leftOf entry rest := by
  simp [leftOf]

@[simp] theorem leftOf_tasksFrom (address : Address) (block : Block) (place : Nat)
    (nodes : List Node) : leftOf entry (tasksFrom address block place nodes) = 0 := by
  induction nodes generalizing place with
  | nil => rfl
  | cons n rest ih =>
    unfold tasksFrom
    rw [leftOf_cons, ih]
    rfl

theorem leftOf_carryOn_le (outcome : Outcome Report) (agenda : List Task) :
    leftOf entry (carryOn outcome agenda) ≤ leftOf entry agenda := by
  cases outcome with
  | ok _ => exact Nat.le_refl _
  | error _ => exact Nat.zero_le _

/-- What comes of a visit has its passes left for the visit alone. -/
theorem Meets.leftOf_eq {address : Address} {n : Node} {number : Nat} {report : Report}
    {w w' : World} {fate : Fate} {tasks : List Task} {outcome : Outcome Report}
    (h : Meets session registry address n number report w fate tasks outcome w') :
    leftOf entry tasks = if number = entry then fate.limit else 0 := by
  cases h with
  | disabled | unmet | undecided | unregistered | called | failed => simp [Fate.limit]
  | entered => simp [Fate.limit, Task.left]
  | decided =>
    split
    · simp [Fate.limit]
    · simp [Fate.limit]

theorem Moves.rounded {s s' : State} (h : Moves session registry s s') (hs : s.Rounded) :
    s'.Rounded := by
  intro entry
  have hentry := hs entry
  cases h with
  | @visit address n rest _ _ visits _ fate tasks outcome _ h =>
    -- The visit brings the limit of a new loop and the passes that are left to it, which are
    -- as many.
    have hcarry : leftOf entry (carryOn outcome (tasks ++ rest)) ≤
        (if visits.length = entry then fate.limit else 0) + leftOf entry rest := by
      rw [← h.leftOf_eq, ← leftOf_append]
      exact leftOf_carryOn_le outcome _
    rw [leftOf_cons] at hentry
    dsimp only [Task.left] at hentry ⊢
    rw [limitAt_concat]
    dsimp only
    omega
  | @pass loop left rest _ _ _ passes =>
    rw [leftOf_cons] at hentry
    rw [leftOf_append, leftOf_cons, leftOf_tasksFrom, List.count_append]
    dsimp only [Task.left] at hentry ⊢
    -- The pass that is made was one of those that were left.
    by_cases heq : loop.entry = entry
    · rw [if_pos heq] at hentry ⊢
      simp only [List.count_singleton, heq, beq_self_eq_true, if_true]
      omega
    · rw [if_neg heq] at hentry ⊢
      simp only [List.count_singleton, beq_iff_eq, heq, if_false]
      omega
  | spent | stop =>
    rw [leftOf_cons] at hentry
    dsimp only at hentry ⊢
    omega
  | again => exact hentry

/-- A visit enters a loop with the limit that its node has in view of the store. -/
theorem Meets.limit_le {address : Address} {n : Node} {number : Nat} {report : Report}
    {w w' : World} {fate : Fate} {tasks : List Task} {outcome : Outcome Report}
    (h : Meets session registry address n number report w fate tasks outcome w') :
    fate.limit ≤ capped session (Workflow.resolvedLimit n.head w.store) := by
  cases h with
  | entered _ _ hown =>
    obtain ⟨site, heq, -⟩ := Workflow.loopLimit_eq n.head w.store w
    rw [hown] at heq
    rw [(Prod.mk.inj heq).1]
    exact Nat.le_refl _
  | disabled | unmet | decided | undecided | unregistered | called | failed =>
    exact Nat.zero_le _

/-- The visits so far enter loops with the limits of their nodes, and the report counts the
passes so far. -/
structure State.Accounted (session : Session) (s : State) : Prop where
  limits : ∀ v ∈ s.visits,
    v.fate.limit ≤ capped session (Workflow.resolvedLimit v.head v.found)
  counted : ∀ report, s.outcome = .ok report → report.loopPasses = s.passes.length

theorem Meets.loopPasses_eq {address : Address} {n : Node} {number : Nat}
    {report report' : Report} {w w' : World} {fate : Fate} {tasks : List Task}
    (h : Meets session registry address n number report w fate tasks (.ok report') w') :
    report'.loopPasses = report.loopPasses := by
  cases h <;> rfl

theorem Moves.accounted {s s' : State} (h : Moves session registry s s')
    (hs : s.Accounted session) : s'.Accounted session := by
  rcases h.visit_or_turn with ⟨address, n, report, fate, tasks, -, hok, h, hvisits, hpasses⟩ |
    hturned
  · refine ⟨fun v hv => ?_, fun report' hreport' => ?_⟩
    · rw [hvisits] at hv
      rcases List.mem_append.mp hv with hv | hv
      · exact hs.limits v hv
      · rw [List.mem_singleton.mp hv]
        exact h.limit_le
    · rw [hreport'] at h
      rw [h.loopPasses_eq, hpasses]
      exact hs.counted report hok
  · obtain ⟨report, report', hok, hok', -, hcount⟩ := hturned.report
    refine ⟨fun v hv => hs.limits v (hturned.visits ▸ hv), fun report'' hreport'' => ?_⟩
    have hcounted := hs.counted report hok
    rw [hok', Except.ok.injEq] at hreport''
    subst hreport''
    omega

end

end Machine

/-- Whether a node may ask the model, going by the types that do.  A loop or a branch does
not, whatever stands for its type. -/
def NodeHead.mayAsk (asks : String → Bool) (h : NodeHead) : Bool :=
  match h.kind with
  | .plugin type => asks type
  | .loop | .branch => false

section

variable {session : Session} {registry : Registry} {w : Workflow} {world : World} {s : State}

theorem Workflow.Reaches.rounded (h : w.Reaches session registry world s) : s.Rounded := by
  refine h.invariant (fun entry => ?_) fun _ _ _ hmove => hmove.rounded
  show 0 + leftOf entry (tasksFrom [] .top 0 w.nodes) ≤ _
  rw [leftOf_tasksFrom]
  exact Nat.zero_le _

theorem Workflow.Reaches.accounted (h : w.Reaches session registry world s) :
    s.Accounted session := by
  refine h.invariant ⟨fun v hv => absurd hv List.not_mem_nil, fun report hreport => ?_⟩
    fun _ _ _ hmove => hmove.accounted
  cases hreport
  rfl

/-! ### Requests -/

/-- The call of a plugin is no request. -/
theorem World.requests_called (v : World) (type : String) (inputs : Inputs) :
    (v.called type inputs).requests = v.requests := by
  unfold World.requests World.called
  rw [Event.requestsOf_append, List.length_append]
  rfl

/-- The requests that a visit makes are within what its node may ask. -/
theorem Machine.Meets.requests_le {asks : String → Bool} (hasks : registry.AsksAt session asks)
    {address : Address} {n : Node} {number : Nat} {report : Report} {v v' : World}
    {fate : Fate} {tasks : List Task} {outcome : Outcome Report}
    (h : Meets session registry address n number report v fate tasks outcome v') :
    v'.requests ≤ v.requests + (n.head.mayAsk asks).toNat := by
  obtain ⟨u, hu, -, hrecord, -⟩ := h.effect
  rw [show v'.requests = u.requests from congrArg (fun es => (Event.requestsOf es).length) hrecord]
  rcases hu with rfl | ⟨type, plugin, inputs, hkind, hget, rfl⟩
  · exact Nat.le_add_right _ _
  · have hasking : n.head.mayAsk asks = asks type := by
      unfold NodeHead.mayAsk
      rw [show n.head.kind = .plugin type from hkind]
    rw [hasking, ← World.requests_called v type inputs]
    exact hasks type plugin hget inputs _

/-- The requests of a run are paid for by its visits. -/
theorem Workflow.Reaches.requests_le {asks : String → Bool}
    (h : w.Reaches session registry world s) (hasks : registry.AsksAt session asks) :
    s.world.requests ≤ world.requests + s.spent fun _ head => (head.mayAsk asks).toNat := by
  refine h.invariant (I := fun s => s.world.requests ≤
    world.requests + s.spent fun _ head => (head.mayAsk asks).toNat) ?_ fun s s' _ hmove hs => ?_
  · have hissues : Step.Asks 0 (noteIssues registry w) := (leaves_noteIssues w).asks
    exact hissues world
  · unfold State.spent at hs ⊢
    rcases hmove.visit_or_turn with ⟨address, n, report, fate, tasks, -, -, h, hvisits, -⟩ |
      hturned
    · have hvisit := h.requests_le hasks
      rw [hvisits, List.map_append, List.sum_append, List.map_singleton, List.sum_singleton]
      dsimp only at hs ⊢
      omega
    · rw [hturned.visits]
      unfold World.requests at hs ⊢
      rw [hturned.record]
      exact hs

/-- The requests of a whole run are within the budget of the nodes for what may ask. -/
theorem Workflow.requests_run_le {limit : NodeHead → Nat} {asks : String → Bool}
    (hlimit : w.LoopsWithin session limit) (hasks : registry.AsksAt session asks)
    (world : World) :
    ((run session registry w).run world).2.requests ≤ world.requests +
      Node.budgetList limit (fun _ head => (head.mayAsk asks).toNat) [] .top 0 w.nodes := by
  obtain ⟨s, hreaches, -, hrun⟩ := reaches_end session registry w world
  rw [← hrun]
  exact Nat.le_trans (hreaches.requests_le hasks)
    (Nat.add_le_add_left (hreaches.spent_le hlimit _) _)

end

/-! ### What is known of the limits before a run -/

/-- The limit of a loop that no binding has a part in. -/
def NodeHead.literalLimit (h : NodeHead) : Nat :=
  match h.maxIterationsSetting with
  | none => Workflow.defaultLimit
  | some raw => raw.count?.getD Workflow.defaultLimit

theorem NodeHead.resolvedLimit_eq {h : NodeHead} (hliteral : h.LimitIsLiteral) (store : Store) :
    Workflow.resolvedLimit h store = h.literalLimit := by
  unfold Workflow.resolvedLimit Workflow.limitOf literalLimit
  rcases hraw : h.maxIterationsSetting with _ | raw
  · rfl
  · dsimp only
    rw [Workflow.settingValue_eq (hliteral raw hraw)]
    rcases raw.count? with _ | n
    · rfl
    · rfl

theorem Machine.capped_le (session : Session) (limit : Nat) : capped session limit ≤ limit := by
  unfold capped
  split
  · exact Nat.min_le_left _ _
  · exact Nat.le_refl _

theorem Machine.capped_le_one {session : Session} (honce : session.flags.once = true)
    (limit : Nat) : capped session limit ≤ 1 := by
  unfold capped
  rw [honce]
  exact Nat.min_le_right _ _

/-- When loops are gone round once, every limit is one at most. -/
theorem Workflow.loopsWithin_once {session : Session} (honce : session.flags.once = true)
    (w : Workflow) : w.LoopsWithin session fun _ => 1 :=
  fun _ _ _ _ => capped_le_one honce _

theorem Workflow.LoopsWithin.rounds {session : Session} {w : Workflow} {limit : NodeHead → Nat}
    (h : w.LoopsWithin session limit) : w.LoopsWithin session (NodeHead.rounds limit) := by
  intro entry hentry hkind store
  rw [show NodeHead.rounds limit entry.2.head = limit entry.2.head from if_pos hkind]
  exact h entry hentry hkind store

/-- The limits of all loops are given in a workflow. -/
def Workflow.LimitsAreLiteral (w : Workflow) : Prop :=
  ∀ entry ∈ w.walk, entry.2.kind = .loop → entry.2.head.LimitIsLiteral

theorem Workflow.loopsWithin_literal {w : Workflow} (hliteral : w.LimitsAreLiteral)
    (session : Session) : w.LoopsWithin session NodeHead.literalLimit := by
  intro entry hentry hkind store
  rw [NodeHead.resolvedLimit_eq (hliteral entry hentry hkind)]
  exact capped_le session _

/-! ### The bounds -/

/-- The bounds that the states of a run of a workflow keep. -/
structure Machine.State.Bounded (session : Session) (registry : Registry) (w : Workflow)
    (world : World) (s : State) : Prop where
  /-- The report counts the passes that are told apart here by visit. -/
  passes : ∀ report, s.outcome = .ok report → report.loopPasses = s.passes.length
  /-- A visit makes as many passes as the limit allows that its node had at that time. -/
  rounds : ∀ i v, s.visits[i]? = some v →
    s.passes.count i ≤ Workflow.resolvedLimit v.head v.found
  /-- When loops are gone round once, it makes one pass at most. -/
  once : session.flags.once = true → ∀ i, s.passes.count i ≤ 1
  /-- Then every node is visited once at most. -/
  single : session.flags.once = true → (s.visits.map Visit.address).Nodup
  /-- And the requests are no more than the nodes that ask. -/
  requests : session.flags.once = true → ∀ asks, registry.AsksAt session asks →
    s.world.requests ≤ world.requests + w.walk.countP fun entry => entry.2.head.mayAsk asks
  /-- In a registry of names these are the nodes whose types stand for the plugin that asks. -/
  named : session.flags.once = true → ∀ names, registry = Registry.ofNames names →
    s.world.requests ≤ world.requests +
      w.walk.countP fun entry => entry.2.head.mayAsk (Registry.askingTypes names)
  /-- When all limits are given in the workflow, a node is visited as often as the limits
  of the loops around it allow. -/
  product : w.LimitsAreLiteral → ∀ address,
    (s.visits.map Visit.address).count address ≤
      ((w.loopsOver address).map NodeHead.literalLimit).prod

theorem Machine.State.count_address (s : State) (address : Address) :
    (s.visits.map Visit.address).count address = s.spent (countOf address) := by
  unfold State.spent
  induction s.visits with
  | nil => rfl
  | cons v rest ih =>
    rw [List.map_cons, List.count_cons, ih, List.map_cons, List.sum_cons, Nat.add_comm]
    simp [countOf]

/-- The bounds hold of every state that a run comes through, whatever the workflow and the
plugins are, and so they hold at its end. -/
theorem Workflow.Reaches.bounded {session : Session} {registry : Registry} {w : Workflow}
    {world : World} {s : State} (h : w.Reaches session registry world s) :
    s.Bounded session registry w world ∧
      ∃ s', Steps session registry s s' ∧ s'.agenda = [] ∧
        (s'.outcome, s'.world) = (run session registry w).run world := by
  have hcount : ∀ i, s.passes.count i ≤ limitAt s.visits i := fun i =>
    Nat.le_trans (Nat.le_add_right _ _) (h.rounded i)
  have hcapped : ∀ i v, s.visits[i]? = some v →
      s.passes.count i ≤ capped session (resolvedLimit v.head v.found) := by
    intro i v hv
    have hlimit := hcount i
    unfold limitAt at hlimit
    rw [hv] at hlimit
    exact Nat.le_trans hlimit (h.accounted.limits v (List.mem_of_getElem? hv))
  have hrequests : session.flags.once = true → ∀ asks, registry.AsksAt session asks →
      s.world.requests ≤ world.requests +
        w.walk.countP fun entry => entry.2.head.mayAsk asks := by
    intro honce asks hasks
    have hspent := h.spent_le (loopsWithin_once honce w) fun _ head => (head.mayAsk asks).toNat
    rw [Node.budgetList_eq_countP (fun n _ => n.budget_eq_countP) [] .top 0 "nodes" 0] at hspent
    exact Nat.le_trans (h.requests_le hasks) (Nat.add_le_add_left hspent _)
  refine ⟨⟨h.accounted.counted, fun i v hv => ?_, fun honce i => ?_, fun honce => ?_,
    hrequests, fun honce names hregistry => ?_, fun hliteral address => ?_⟩, h.leads_end⟩
  · exact Nat.le_trans (hcapped i v hv) (capped_le session _)
  · rcases hv : s.visits[i]? with _ | v
    · -- A number that no visit has yet.
      have hlimit := hcount i
      unfold limitAt at hlimit
      rw [hv] at hlimit
      exact Nat.le_trans hlimit (Nat.zero_le 1)
    · exact Nat.le_trans (hcapped i v hv) (capped_le_one honce _)
  · -- No address is counted twice, since all limits around it are one at most.
    rw [List.nodup_iff_count]
    intro address
    rw [s.count_address]
    refine Nat.le_trans (h.spent_le (loopsWithin_once honce w).rounds _) ?_
    refine Nat.le_trans w.budget_le ?_
    simp
  · refine hrequests honce _ ?_
    rw [hregistry]
    exact Registry.asksAt_ofNames session names
  · rw [s.count_address]
    exact Nat.le_trans (h.spent_le (loopsWithin_literal hliteral session).rounds _) w.budget_le

/-- A run of the standard workflow that goes round its loop once: no node is visited twice, and
one request is made at most. -/
theorem Workflow.standard_bounded :
    let session := Rehearsal.session ⟨false, true, true⟩ ⟨[]⟩ [("echo", .echoes)]
    let registry := Registry.ofNames Registry.standardNames
    let replies := [Reply.message (Message.requesting [ToolCall.new "1" "echo" ""])]
    let world : World :=
      ⟨{ (default : Site) with rehearsal := ⟨replies, [], 0⟩ }, Store.empty, []⟩
    ∃ s, standard.Reaches session registry world s ∧ s.agenda = [] ∧
      (s.visits.map Visit.address).Nodup ∧ s.world.requests ≤ 1 := by
  intro session registry replies world
  obtain ⟨s, hreaches, hagenda, -⟩ := reaches_end session registry standard world
  obtain ⟨hbounded, -⟩ := hreaches.bounded
  refine ⟨s, hreaches, hagenda, hbounded.single rfl, ?_⟩
  -- Of the nodes of the standard workflow one asks.
  exact hbounded.named rfl Registry.standardNames rfl

end AgentWorkflow
