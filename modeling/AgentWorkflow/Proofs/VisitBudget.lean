/-
How much the visits of a run can weigh.

* `Node.budget` — what the visits to a node and to those below it weigh at most, when each
  loop goes round so often at most.
* `Workflow.LoopsWithin` — no loop of a workflow goes round more often than a given limit.
* `Machine.Moves.cost_le` — a visit pays for itself, and no move costs anything besides.
* `Workflow.Reaches.spent_le` — so all visits together stay within the budget of the nodes.
* `Node.budget_eq_countP`, `Workflow.budget_le` — the budget when every loop goes round once,
  and the budget for the visits to one address.

Design notes: the weight of a visit is any function of the address and of the node.  The
measure is what the visits so far weigh and what the tasks on the agenda may still cost; a
loop on the agenda costs as many rounds of its body as are left.  Counting visits, to one
address or to the nodes of one kind, is a choice of the weight.
-/
import AgentWorkflow.Proofs.Machine
import Mathlib.Algebra.GroupWithZero.Nat

namespace AgentWorkflow

open Machine

/-! ### Budgets -/

section

variable (limit : NodeHead → Nat) (weight : Address → NodeHead → Nat)

mutual

/-- What the visits to a node at an address and to those below it weigh at most. -/
def Node.budget (address : Address) : Node → Nat
  | .mk h body thenSteps elseSteps =>
    weight address h + limit h * Node.budgetList address .body 0 body +
      Node.budgetList address .thenSteps 0 thenSteps +
      Node.budgetList address .elseSteps 0 elseSteps

def Node.budgetList (address : Address) (block : Block) (place : Nat) : List Node → Nat
  | [] => 0
  | n :: rest =>
    Node.budget (address ++ [(block, place)]) n +
      Node.budgetList address block (place + 1) rest

end

/-- What the visits that a task leads to weigh at most. -/
def Machine.Task.budget : Task → Nat
  | .visit address n => n.budget limit weight address
  | .goRound loop left | .look loop left =>
    left * Node.budgetList limit weight loop.address .body 0 loop.body

/-- What the visits that some tasks lead to weigh at most. -/
def Machine.budgetOf (agenda : List Task) : Nat :=
  (agenda.map fun t => t.budget limit weight).sum

/-- What the visits so far weigh. -/
def Machine.State.spent (s : State) : Nat :=
  (s.visits.map fun v => weight v.address v.head).sum

/-- What the visits so far weigh and what those still to come may weigh. -/
def Machine.State.cost (s : State) : Nat :=
  s.spent weight + budgetOf limit weight s.agenda

end

/-- No loop of a workflow goes round more often than its limit. -/
def Workflow.LoopsWithin (session : Session) (w : Workflow) (limit : NodeHead → Nat) : Prop :=
  ∀ entry ∈ w.walk, entry.2.kind = .loop →
    ∀ store, capped session (Workflow.resolvedLimit entry.2.head store) ≤ limit entry.2.head

namespace Machine

variable {session : Session} {registry : Registry} {limit : NodeHead → Nat}
  {weight : Address → NodeHead → Nat}

/-! ### What the moves cost -/

@[simp] theorem budgetOf_nil : budgetOf limit weight [] = 0 := rfl

@[simp] theorem budgetOf_cons (t : Task) (rest : List Task) :
    budgetOf limit weight (t :: rest) = t.budget limit weight + budgetOf limit weight rest := rfl

@[simp] theorem budgetOf_append (tasks rest : List Task) :
    budgetOf limit weight (tasks ++ rest) =
      budgetOf limit weight tasks + budgetOf limit weight rest := by
  simp [budgetOf]

@[simp] theorem budgetOf_tasksFrom (address : Address) (block : Block) (place : Nat)
    (nodes : List Node) :
    budgetOf limit weight (tasksFrom address block place nodes) =
      Node.budgetList limit weight address block place nodes := by
  induction nodes generalizing place with
  | nil => rfl
  | cons n rest ih =>
    unfold tasksFrom Node.budgetList
    rw [budgetOf_cons, ih]
    rfl

theorem budgetOf_carryOn_le (outcome : Outcome Report) (agenda : List Task) :
    budgetOf limit weight (carryOn outcome agenda) ≤ budgetOf limit weight agenda := by
  cases outcome with
  | ok _ => exact Nat.le_refl _
  | error _ => exact Nat.zero_le _

/-- What a visit weighs and what comes of it is within the budget of the node. -/
theorem Meets.cost_le {address : Address} {n : Node} {entry : Nat} {report : Report}
    {w w' : World} {fate : Fate} {tasks : List Task} {outcome : Outcome Report}
    (h : Meets session registry address n entry report w fate tasks outcome w')
    (hlimit : n.kind = .loop →
      capped session (Workflow.resolvedLimit n.head w.store) ≤ limit n.head) :
    weight address n.head + budgetOf limit weight tasks ≤ n.budget limit weight address := by
  obtain ⟨head, body, thenSteps, elseSteps⟩ := n
  unfold Node.budget
  cases h with
  | disabled | unmet | undecided | unregistered | called | failed =>
    rw [budgetOf_nil]
    show weight address head + 0 ≤ _
    omega
  | @entered own _ _ hkind hown =>
    obtain ⟨site, heq, -⟩ := Workflow.loopLimit_eq head w.store w
    rw [show Workflow.loopLimit head w.store w = (own, w') from hown] at heq
    have hcap : capped session own ≤ limit head := by
      rw [(Prod.mk.inj heq).1]
      exact hlimit hkind
    have hbody := Nat.mul_le_mul_right (Node.budgetList limit weight address .body 0 body) hcap
    rw [budgetOf_cons, budgetOf_nil]
    show weight address head +
      (capped session own * Node.budgetList limit weight address .body 0 body + 0) ≤ _
    omega
  | decided =>
    split
    · rw [budgetOf_tasksFrom]
      show weight address head + Node.budgetList limit weight address .thenSteps 0 thenSteps ≤ _
      omega
    · rw [budgetOf_tasksFrom]
      show weight address head + Node.budgetList limit weight address .elseSteps 0 elseSteps ≤ _
      omega

/-- A move does not raise the cost. -/
theorem Moves.cost_le {w : Workflow} {s s' : State} (h : Moves session registry s s')
    (hplaced : s.Placed w) (hlimit : w.LoopsWithin session limit) :
    s'.cost limit weight ≤ s.cost limit weight := by
  unfold State.cost State.spent
  cases h with
  | @visit address n rest _ v visits _ fate tasks outcome _ h =>
    -- The limit is known of the loops of the workflow, and the node is one of its nodes.
    obtain ⟨path, hwalk⟩ := Workflow.mem_walk_of_nodeAt? (hplaced.tasks _ List.mem_cons_self)
    have hnode : weight address n.head + budgetOf limit weight tasks ≤
        n.budget limit weight address := h.cost_le fun hkind => hlimit _ hwalk hkind v.store
    have hcarry : budgetOf limit weight (carryOn outcome (tasks ++ rest)) ≤
        budgetOf limit weight tasks + budgetOf limit weight rest := by
      rw [← budgetOf_append]
      exact budgetOf_carryOn_le outcome _
    dsimp only
    rw [budgetOf_cons, List.map_append, List.sum_append, List.map_singleton, List.sum_singleton]
    show _ ≤ _ + (n.budget limit weight address + _)
    dsimp only
    omega
  | @pass loop left rest =>
    -- One of the rounds that were left is on the agenda as the nodes of the body.
    rw [budgetOf_append, budgetOf_cons, budgetOf_cons, budgetOf_tasksFrom]
    show _ + (Node.budgetList limit weight loop.address .body 0 loop.body +
      (left * Node.budgetList limit weight loop.address .body 0 loop.body + _)) ≤
      _ + ((left + 1) * Node.budgetList limit weight loop.address .body 0 loop.body + _)
    rw [Nat.succ_mul]
    dsimp only
    omega
  | spent | stop =>
    rw [budgetOf_cons]
    dsimp only
    omega
  | again => exact Nat.le_refl _

end Machine

/-- The visits of a run stay within the budget of the nodes of its workflow. -/
theorem Workflow.Reaches.spent_le {session : Session} {registry : Registry} {w : Workflow}
    {world : World} {s : State} {limit : NodeHead → Nat} (h : w.Reaches session registry world s)
    (hlimit : w.LoopsWithin session limit) (weight : Address → NodeHead → Nat) :
    s.spent weight ≤ Node.budgetList limit weight [] .top 0 w.nodes := by
  have hinitial : (w.initial registry world).cost limit weight =
      Node.budgetList limit weight [] .top 0 w.nodes := by
    show 0 + budgetOf limit weight (tasksFrom [] .top 0 w.nodes) = _
    rw [budgetOf_tasksFrom, Nat.zero_add]
  have hcost : s.cost limit weight ≤ (w.initial registry world).cost limit weight :=
    h.invariant (I := fun s => s.cost limit weight ≤ (w.initial registry world).cost limit weight)
      (Nat.le_refl _)
      fun _ _ hreaches hmove hs =>
        Nat.le_trans (hmove.cost_le hreaches.placed hlimit) hs
  rw [hinitial] at hcost
  exact Nat.le_trans (Nat.le_add_right _ _) hcost

/-! ### Nodes of one kind -/

section

variable {chosen : NodeHead → Bool}

theorem countP_cons_toNat {α : Type} (p : α → Bool) (a : α) (rest : List α) :
    (a :: rest).countP p = (p a).toNat + rest.countP p := by
  rw [List.countP_cons, Nat.add_comm]
  cases p a <;> rfl

theorem Node.budgetList_eq_countP {nodes : List Node}
    (h : ∀ n ∈ nodes, ∀ address path,
      n.budget (fun _ => 1) (fun _ head => (chosen head).toNat) address =
        (n.walk path).countP fun entry => chosen entry.2.head)
    (address : Address) (block : Block) (place : Nat) (list : String) (place' : Nat) :
    Node.budgetList (fun _ => 1) (fun _ head => (chosen head).toNat) address block place nodes =
      (Node.walkList list place' nodes).countP fun entry => chosen entry.2.head := by
  induction nodes generalizing place place' with
  | nil => rfl
  | cons n rest ih =>
    obtain ⟨hn, hrest⟩ := List.forall_mem_cons.mp h
    unfold Node.budgetList Node.walkList
    rw [hn _ (Node.pathAt list place'), ih hrest _ (place' + 1), List.countP_append]

/-- When every loop goes round once at most, the budget of a node for the visits to some
nodes is their number. -/
theorem Node.budget_eq_countP (n : Node) :
    ∀ address path, n.budget (fun _ => 1) (fun _ head => (chosen head).toNat) address =
      (n.walk path).countP fun entry => chosen entry.2.head := by
  induction n using Node.induct with
  | mk head body thenSteps elseSteps hbody hthen helse =>
    intro address path
    unfold Node.budget Node.walk
    rw [Node.budgetList_eq_countP hbody _ _ _ (path ++ ".body") 0,
      Node.budgetList_eq_countP hthen _ _ _ (path ++ ".then_steps") 0,
      Node.budgetList_eq_countP helse _ _ _ (path ++ ".else_steps") 0,
      countP_cons_toNat, List.countP_append, List.countP_append]
    show _ = (chosen head).toNat + (_ + _ + _)
    omega

theorem Node.budget_leaf {limit : NodeHead → Nat} {weight : Address → NodeHead → Nat} {n : Node}
    (h : n = .mk n.head [] [] []) (address : Address) :
    n.budget limit weight address = weight address n.head := by
  rw [h]
  unfold Node.budget Node.budgetList
  rfl

/-- Nodes without steps are visited once each, however often loops go round. -/
theorem Node.budgetList_leaves {limit : NodeHead → Nat} {nodes : List Node}
    (h : ∀ n ∈ nodes, n = .mk n.head [] [] []) (address : Address) (block : Block)
    (place : Nat) :
    Node.budgetList limit (fun _ head => (chosen head).toNat) address block place nodes =
      nodes.countP fun n => chosen n.head := by
  induction nodes generalizing place with
  | nil => rfl
  | cons n rest ih =>
    obtain ⟨hn, hrest⟩ := List.forall_mem_cons.mp h
    unfold Node.budgetList
    rw [Node.budget_leaf hn, ih hrest, countP_cons_toNat]

end

/-! ### Visits to one address -/

/-- The loops that the body is entered of on the way from a node to an address below it. -/
def Node.loopsOver : Address → Node → List NodeHead
  | [], _ => []
  | (block, i) :: rest, n =>
    (if block = .body ∧ n.kind = .loop then [n.head] else []) ++
      ((n.block block)[i]?.map (loopsOver rest)).getD []

/-- The loops around an address of a workflow, the outermost one first. -/
def Workflow.loopsOver (w : Workflow) : Address → List NodeHead
  | (.top, i) :: rest => (w.nodes[i]?.map (Node.loopsOver rest)).getD []
  | _ => []

/-- How often a loop lets its body be run; the body of another node is not run. -/
def NodeHead.rounds (limit : NodeHead → Nat) (h : NodeHead) : Nat :=
  if h.kind = .loop then limit h else 1

section

variable {limit rounds : NodeHead → Nat} {target : Address}

/-- A weight that counts the visits to one address. -/
def countOf (target address : Address) (_ : NodeHead) : Nat := if address = target then 1 else 0

theorem Node.budgetList_eq_zero {nodes : List Node}
    (h : ∀ n ∈ nodes, ∀ address, (∀ rest, target ≠ address ++ rest) →
      n.budget rounds (countOf target) address = 0)
    (address : Address) (block : Block) (place : Nat)
    (hout : ∀ i rest, place ≤ i → target ≠ address ++ (block, i) :: rest) :
    Node.budgetList rounds (countOf target) address block place nodes = 0 := by
  induction nodes generalizing place with
  | nil => rfl
  | cons n rest ih =>
    obtain ⟨hn, hrest⟩ := List.forall_mem_cons.mp h
    have hhead : n.budget rounds (countOf target) (address ++ [(block, place)]) = 0 :=
      hn _ fun rest => by simpa using hout place rest (Nat.le_refl _)
    have htail := ih hrest (place + 1) fun i rest hi => hout i rest (by omega)
    unfold Node.budgetList
    omega

/-- Nothing is visited outside of a node. -/
theorem Node.budget_eq_zero (n : Node) :
    ∀ address, (∀ rest, target ≠ address ++ rest) →
      n.budget rounds (countOf target) address = 0 := by
  induction n using Node.induct with
  | mk head body thenSteps elseSteps hbody hthen helse =>
    intro address hout
    have hself : countOf target address head = 0 := by
      have hne : address ≠ target := fun h => hout [] (by simp [h])
      simp [countOf, hne]
    unfold Node.budget
    rw [hself, Node.budgetList_eq_zero hbody _ _ _ fun i rest _ => hout _,
      Node.budgetList_eq_zero hthen _ _ _ fun i rest _ => hout _,
      Node.budgetList_eq_zero helse _ _ _ fun i rest _ => hout _]
    rfl

/-- Of a block, the node that the target is in is all that counts. -/
theorem Node.budgetList_le {nodes : List Node} {rest : Address}
    (h : ∀ n ∈ nodes, ∀ address, target = address ++ rest →
      n.budget rounds (countOf target) address ≤ ((n.loopsOver rest).map limit).prod)
    (address : Address) (block : Block) (place i : Nat)
    (htarget : target = address ++ (block, place + i) :: rest) :
    Node.budgetList rounds (countOf target) address block place nodes ≤
      (((nodes[i]?.map (Node.loopsOver rest)).getD []).map limit).prod := by
  induction nodes generalizing place i with
  | nil => exact Nat.zero_le _
  | cons n nodes ih =>
    obtain ⟨hn, hrest⟩ := List.forall_mem_cons.mp h
    unfold Node.budgetList
    cases i with
    | zero =>
      have hhead := hn (address ++ [(block, place)]) (by simpa using htarget)
      have htail : Node.budgetList rounds (countOf target) address block (place + 1) nodes = 0 := by
        refine Node.budgetList_eq_zero (fun n _ => n.budget_eq_zero) _ _ _ fun j rest' hj heq => ?_
        rw [htarget] at heq
        simp at heq
        omega
      rw [htail]
      simpa using hhead
    | succ i =>
      have hhead : n.budget rounds (countOf target) (address ++ [(block, place)]) = 0 := by
        refine n.budget_eq_zero _ fun rest' heq => ?_
        rw [htarget] at heq
        simp at heq
      have htail := ih hrest (place + 1) i (by rw [htarget]; congr 3; omega)
      rw [hhead, Nat.zero_add]
      simpa using htail

/-- Of a node, the block that is on the way to the target is all that counts, and its body as
often as the node goes round it. -/
theorem Node.budget_eq_block (n : Node) {address rest : Address} {block : Block} {i : Nat}
    (htarget : target = address ++ (block, i) :: rest) :
    n.budget rounds (countOf target) address =
      (if block = .body then rounds n.head else 1) *
        Node.budgetList rounds (countOf target) address block 0 (n.block block) := by
  obtain ⟨head, body, thenSteps, elseSteps⟩ := n
  have hself : countOf target address head = 0 := by simp [countOf, htarget]
  have hother : ∀ other nodes, other ≠ block →
      Node.budgetList rounds (countOf target) address other 0 nodes = 0 := by
    intro other nodes hne
    refine Node.budgetList_eq_zero (fun n _ => n.budget_eq_zero) _ _ _ fun j rest' _ heq => ?_
    rw [htarget] at heq
    simp at heq
    exact hne heq.1.1.symm
  unfold Node.budget
  rw [hself]
  cases block with
  | top =>
    rw [hother .body body (by decide), hother .thenSteps thenSteps (by decide),
      hother .elseSteps elseSteps (by decide)]
    simp [Node.block, Node.budgetList]
  | body =>
    rw [hother .thenSteps thenSteps (by decide), hother .elseSteps elseSteps (by decide)]
    simp [Node.block, Node.body, Node.head]
  | thenSteps =>
    rw [hother .body body (by decide), hother .elseSteps elseSteps (by decide)]
    simp [Node.block, Node.thenSteps]
  | elseSteps =>
    rw [hother .body body (by decide), hother .thenSteps thenSteps (by decide)]
    simp [Node.block, Node.elseSteps]

/-- The budget of a node for the visits to an address below it is the product of the limits
of the loops between them. -/
theorem Node.budget_le (n : Node) :
    ∀ rest address, target = address ++ rest →
      n.budget (NodeHead.rounds limit) (countOf target) address ≤
        ((n.loopsOver rest).map limit).prod := by
  induction n using Node.induct with
  | mk head body thenSteps elseSteps hbody hthen helse =>
    intro rest address htarget
    rcases rest with _ | ⟨⟨block, i⟩, rest⟩
    · -- The node itself is the target, and nothing below it is.
      have hbelow : ∀ block nodes,
          Node.budgetList (NodeHead.rounds limit) (countOf target) address block 0 nodes = 0 := by
        intro block nodes
        refine Node.budgetList_eq_zero (fun n _ => n.budget_eq_zero) _ _ _ fun i rest _ heq => ?_
        rw [htarget] at heq
        simp at heq
      have hself : countOf target address head = 1 := by simp [countOf, htarget]
      unfold Node.budget
      rw [hbelow, hbelow, hbelow, hself]
      simp [Node.loopsOver]
    · have hnodes : ∀ m ∈ (Node.mk head body thenSteps elseSteps).block block, ∀ address,
          target = address ++ rest → m.budget (NodeHead.rounds limit) (countOf target) address ≤
            ((m.loopsOver rest).map limit).prod := by
        intro m hm address
        cases block with
        | top => exact absurd hm List.not_mem_nil
        | body => exact hbody m hm rest address
        | thenSteps => exact hthen m hm rest address
        | elseSteps => exact helse m hm rest address
      have hblock := Node.budgetList_le hnodes address block 0 i (by rwa [Nat.zero_add])
      -- The rounds of the node count if the way leads through its body and it is a loop.
      have hrounds : (if block = .body then NodeHead.rounds limit head else 1) =
          ((if block = .body ∧ head.kind = .loop then [head] else []).map limit).prod := by
        unfold NodeHead.rounds
        by_cases hbody : block = .body
        · by_cases hloop : head.kind = .loop
          · simp [hbody, hloop]
          · simp [hbody, hloop]
        · simp [hbody]
      rw [Node.budget_eq_block _ htarget]
      unfold Node.loopsOver
      rw [List.map_append, List.prod_append]
      exact Nat.mul_le_mul (Nat.le_of_eq hrounds) hblock

/-- The budget of a workflow for the visits to an address is the product of the limits of the
loops around it. -/
theorem Workflow.budget_le (w : Workflow) :
    Node.budgetList (NodeHead.rounds limit) (countOf target) [] .top 0 w.nodes ≤
      ((w.loopsOver target).map limit).prod := by
  have hnone : (∀ i rest, target ≠ (.top, i) :: rest) →
      Node.budgetList (NodeHead.rounds limit) (countOf target) [] .top 0 w.nodes = 0 :=
    fun hout => Node.budgetList_eq_zero (fun n _ => n.budget_eq_zero) _ _ _ fun i rest _ =>
      hout i rest
  rcases target with _ | ⟨⟨block, i⟩, rest⟩
  · rw [hnone fun i rest => by simp]
    exact Nat.zero_le _
  cases block with
  | top =>
    refine Node.budgetList_le (fun n _ address => n.budget_le rest address) [] .top 0 i ?_
    rw [Nat.zero_add]
    rfl
  | body | thenSteps | elseSteps =>
    rw [hnone fun i rest => by simp]
    exact Nat.zero_le _

end

end AgentWorkflow
