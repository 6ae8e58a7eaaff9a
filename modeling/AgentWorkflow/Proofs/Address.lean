/-
Where the nodes of a workflow stand.

* `Address` — the way to a node: blocks, and places in them.
* `Node.below?`, `Workflow.nodeAt?` — the node that an address leads to.
* `Workflow.nodeAt?_append` — the nodes of a block of a node stand right below it.
* `Address.path` — an address in words.
* `Workflow.visits` — the nodes in the order of a walk, with their addresses;
  `Workflow.mem_visits_iff`, these are the nodes that addresses lead to.
* `Workflow.walk_eq` — a walk calls them by the paths of their addresses, so
  `Workflow.mem_walk_of_nodeAt?`, it comes by every one of them.

Design notes: two nodes of a workflow may say the same, so what is said about single nodes
is said about addresses.  A path of a walk is an address in words.
-/
import AgentWorkflow.Workflow.Walk

namespace AgentWorkflow

/-! ### Places of nodes -/

/-- The lists of nodes that there are: those of a workflow, the body of a loop, and the
two arms of a branch. -/
inductive Block where
  | top
  | body
  | thenSteps
  | elseSteps
  deriving DecidableEq, Repr

/-- Where a node stands: from the outermost block inwards, the block and the number of
the node in it. -/
abbrev Address := List (Block × Nat)

namespace Node

def block (n : Node) : Block → List Node
  | .top => []
  | .body => n.body
  | .thenSteps => n.thenSteps
  | .elseSteps => n.elseSteps

/-- The node that an address leads to from a node. -/
def below? : Address → Node → Option Node
  | [], n => some n
  | (block, i) :: rest, n => (n.block block)[i]?.bind (below? rest)

theorem below?_append (address : Address) (n : Node) (block : Block) (i : Nat) :
    below? (address ++ [(block, i)]) n =
      (below? address n).bind fun m => (m.block block)[i]? := by
  induction address generalizing n with
  | nil => simp [below?]
  | cons place rest ih =>
    obtain ⟨b, j⟩ := place
    rw [List.cons_append]
    unfold below?
    rcases (n.block b)[j]? with _ | m
    · rfl
    · exact ih m

end Node

/-- The node at an address of a workflow. -/
def Workflow.nodeAt? (w : Workflow) : Address → Option Node
  | (.top, i) :: rest => w.nodes[i]?.bind (Node.below? rest)
  | _ => none

/-- The nodes of a block stand below the node of the block. -/
theorem Workflow.nodeAt?_append {w : Workflow} {address : Address} {n : Node}
    (h : w.nodeAt? address = some n) (block : Block) (i : Nat) :
    w.nodeAt? (address ++ [(block, i)]) = (n.block block)[i]? := by
  rcases address with _ | ⟨⟨b, j⟩, rest⟩
  · simp [nodeAt?] at h
  cases b with
  | top =>
    simp only [nodeAt?, Option.bind_eq_some_iff] at h
    obtain ⟨m, hm, hn⟩ := h
    simp [nodeAt?, hm, Node.below?_append, hn]
  | body => simp [nodeAt?] at h
  | thenSteps => simp [nodeAt?] at h
  | elseSteps => simp [nodeAt?] at h

/-! ### Addresses in words -/

/-- What a block is called in a document. -/
def Block.name : Block → String
  | .top => "nodes"
  | .body => "body"
  | .thenSteps => "then_steps"
  | .elseSteps => "else_steps"

/-- A place of a block, in words. -/
def Address.segment (step : Block × Nat) : String := Node.pathAt step.1.name step.2

/-- The path that goes on from another one along an address. -/
def Address.pathFrom (path : String) (address : Address) : String :=
  Text.join "." (path :: address.map segment)

/-- The path of an address: its steps, with dots between them. -/
def Address.path (address : Address) : String := Text.join "." (address.map segment)

theorem Address.pathFrom_nil (path : String) : pathFrom path [] = path := by
  rw [pathFrom, List.map_nil, Text.join, String.intercalate_singleton]

/-- What goes on from a node goes on from a place of one of its blocks. -/
theorem Address.pathFrom_cons (path : String) {list : String} {block : Block}
    (hlist : list = path ++ ("." ++ block.name)) (place : Nat) (address : Address) :
    pathFrom path ((block, place) :: address) = pathFrom (Node.pathAt list place) address := by
  have hsegment : Node.pathAt list place = path ++ "." ++ segment (block, place) := by
    simp only [hlist, Node.pathAt, segment, String.append_assoc]
  rw [pathFrom, pathFrom, hsegment, Text.join, Text.join, String.intercalate_cons_append,
    List.map_cons, String.intercalate_cons_cons]

/-! ### Walks -/

mutual

/-- The nodes of a tree in the order of a walk, with their addresses from its root. -/
def Node.visits : Node → List (Address × Node)
  | .mk h body thenSteps elseSteps =>
    ([], .mk h body thenSteps elseSteps) ::
      (Node.visitsIn .body 0 body ++ Node.visitsIn .thenSteps 0 thenSteps ++
        Node.visitsIn .elseSteps 0 elseSteps)

/-- The nodes of a block from a place on, and those below them. -/
def Node.visitsIn (block : Block) (place : Nat) : List Node → List (Address × Node)
  | [] => []
  | n :: rest =>
    (Node.visits n).map (fun visit => ((block, place) :: visit.1, visit.2)) ++
      Node.visitsIn block (place + 1) rest

end

def Workflow.visits (w : Workflow) : List (Address × Node) := Node.visitsIn .top 0 w.nodes

mutual

/-- A walk comes by the nodes of a tree and calls them by the paths of their addresses. -/
theorem Node.walk_eq : ∀ (n : Node) (path : String),
    Node.walk path n = n.visits.map fun visit => (Address.pathFrom path visit.1, visit.2)
  | .mk h body thenSteps elseSteps, path => by
    have hbody := Node.walkList_eq body .body _ (Address.pathFrom_cons path rfl) 0
    have hthen := Node.walkList_eq thenSteps .thenSteps _ (Address.pathFrom_cons path rfl) 0
    have helse := Node.walkList_eq elseSteps .elseSteps _ (Address.pathFrom_cons path rfl) 0
    rw [Node.walk, Node.visits, List.map_cons, List.map_append, List.map_append,
      Address.pathFrom_nil, ← hbody, ← hthen, ← helse]
    rfl

/-- A walk over a block calls its nodes by paths that go on from the places of the block.  How
addresses are called is a parameter, as there is no path before the outermost block. -/
theorem Node.walkList_eq : ∀ (nodes : List Node) (block : Block) {list : String}
    (called : Address → String)
    (_ : ∀ place address, called ((block, place) :: address) =
      Address.pathFrom (Node.pathAt list place) address) (place : Nat),
    Node.walkList list place nodes =
      (Node.visitsIn block place nodes).map fun visit => (called visit.1, visit.2)
  | [], _, _, _, _, _ => rfl
  | n :: rest, block, list, called, hcalled, place => by
    rw [Node.walkList, Node.visitsIn, List.map_append, List.map_map, Node.walk_eq n,
      Node.walkList_eq rest block called hcalled (place + 1)]
    simp only [Function.comp_def, hcalled]

end

/-! ### What a walk comes by -/

theorem Node.mem_visitsIn_iff {nodes : List Node} {block : Block} {place : Nat} {address : Address}
    {m : Node} : (address, m) ∈ visitsIn block place nodes ↔
      ∃ i n below, nodes[i]? = some n ∧ (below, m) ∈ n.visits ∧
        address = (block, place + i) :: below := by
  induction nodes generalizing place with
  | nil => simp [visitsIn]
  | cons n rest ih =>
    rw [visitsIn, List.mem_append, List.mem_map, ih]
    constructor
    · rintro (⟨⟨below, m'⟩, hmem, heq⟩ | ⟨i, k, below, hk, hmem, rfl⟩)
      · obtain ⟨rfl, rfl⟩ := Prod.mk.inj heq
        exact ⟨0, n, below, rfl, hmem, rfl⟩
      · exact ⟨i + 1, k, below, hk, hmem, by rw [Nat.add_right_comm, Nat.add_assoc]⟩
    · rintro ⟨i, k, below, hk, hmem, rfl⟩
      cases i with
      | zero =>
        rw [List.getElem?_cons_zero, Option.some.injEq] at hk
        exact .inl ⟨(below, m), hk ▸ hmem, rfl⟩
      | succ i =>
        rw [List.getElem?_cons_succ] at hk
        exact .inr ⟨i, k, below, hk, hmem, by rw [Nat.add_right_comm, Nat.add_assoc]⟩

theorem Node.nil_not_mem_visitsIn {nodes : List Node} {block : Block} {place : Nat} {m : Node} :
    ([], m) ∉ visitsIn block place nodes := by
  rw [mem_visitsIn_iff]
  rintro ⟨i, n, below, -, -, heq⟩
  exact List.cons_ne_nil _ _ heq.symm

theorem Node.cons_mem_visitsIn_iff {nodes : List Node} {block block' : Block} {i : Nat}
    {below : Address} {m : Node} : ((block, i) :: below, m) ∈ visitsIn block' 0 nodes ↔
      block = block' ∧ ∃ n, nodes[i]? = some n ∧ (below, m) ∈ n.visits := by
  rw [mem_visitsIn_iff]
  constructor
  · rintro ⟨j, n, below', hn, hmem, heq⟩
    obtain ⟨hstep, rfl⟩ := List.cons.inj heq
    obtain ⟨rfl, rfl⟩ := Prod.mk.inj hstep
    rw [Nat.zero_add]
    exact ⟨rfl, n, hn, hmem⟩
  · rintro ⟨rfl, n, hn, hmem⟩
    exact ⟨i, n, below, hn, hmem, by rw [Nat.zero_add]⟩

/-- What is visited below a node is visited from a node of one of its blocks. -/
theorem Node.cons_mem_visits_iff {n m : Node} {block : Block} {i : Nat} {below : Address} :
    ((block, i) :: below, m) ∈ n.visits ↔
      ∃ k, (n.block block)[i]? = some k ∧ (below, m) ∈ k.visits := by
  obtain ⟨h, body, thenSteps, elseSteps⟩ := n
  rw [visits, List.mem_cons, List.mem_append, List.mem_append, cons_mem_visitsIn_iff,
    cons_mem_visitsIn_iff, cons_mem_visitsIn_iff]
  cases block with
  | top | body | thenSteps | elseSteps =>
    simp [Node.block, Node.body, Node.thenSteps, Node.elseSteps]

/-- The nodes that are visited are those that addresses lead to. -/
theorem Node.mem_visits_iff {address : Address} {n m : Node} :
    (address, m) ∈ n.visits ↔ below? address n = some m := by
  induction address generalizing n with
  | nil =>
    obtain ⟨h, body, thenSteps, elseSteps⟩ := n
    simp [visits, below?, nil_not_mem_visitsIn, eq_comm]
  | cons step below ih =>
    obtain ⟨block, i⟩ := step
    simp only [cons_mem_visits_iff, ih, below?, Option.bind_eq_some_iff]

theorem Workflow.mem_visits_iff {w : Workflow} {address : Address} {n : Node} :
    (address, n) ∈ w.visits ↔ w.nodeAt? address = some n := by
  rcases address with _ | ⟨⟨block, i⟩, below⟩
  · exact iff_of_false Node.nil_not_mem_visitsIn nofun
  · rw [visits, Node.cons_mem_visitsIn_iff]
    cases block with
    | top => simp [nodeAt?, Option.bind_eq_some_iff, Node.mem_visits_iff]
    | body | thenSteps | elseSteps => simp [nodeAt?]

/-- A walk over a workflow comes by its nodes and calls them by the paths of their addresses. -/
theorem Workflow.walk_eq (w : Workflow) :
    w.walk = w.visits.map fun visit => (Address.path visit.1, visit.2) :=
  Node.walkList_eq w.nodes .top Address.path (fun _ _ => rfl) 0

theorem Workflow.mem_walk_iff {w : Workflow} {path : String} {n : Node} :
    (path, n) ∈ w.walk ↔ ∃ address, w.nodeAt? address = some n ∧ Address.path address = path := by
  simp [walk_eq, ← mem_visits_iff]

/-- A node that has an address is walked over. -/
theorem Workflow.mem_walk_of_nodeAt? {w : Workflow} {address : Address} {n : Node}
    (h : w.nodeAt? address = some n) : ∃ path, (path, n) ∈ w.walk :=
  ⟨_, mem_walk_iff.mpr ⟨address, h, rfl⟩⟩

end AgentWorkflow
