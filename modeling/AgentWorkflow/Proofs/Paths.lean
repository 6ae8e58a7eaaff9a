/-
Paths of a walk.

* `Address.Precedes` — depth-first order: a node before those below it, its blocks one after the
  other, and in a block by place.
* `Workflow.pairwise_visits` — a walk goes in this order.
* `Address.ofPath?` — reads a path; `Address.ofPath?_path`, the path of an address is read back.
* `Workflow.nodup_paths` — no two nodes of a workflow have the same path.
* `Workflow.walk_unique` — so a path is that of one node.

Design notes: a path is an address in words.  The names of blocks hold no brackets, digits no more
than that, and neither holds a dot, so a path is cut where it was put together.
-/
import AgentWorkflow.Proofs.Address
import AgentWorkflow.Proofs.FilePaths
import AgentWorkflow.Proofs.Interpreter
import Mathlib.Data.List.Nodup

namespace AgentWorkflow

/-! ### The order of a walk -/

/-- The blocks of a node in the order in which they are walked over. -/
def Block.rank : Block → Nat
  | .top => 0
  | .body => 1
  | .thenSteps => 2
  | .elseSteps => 3

namespace Address

/-- The one of two places of a node comes before the other. -/
def StepBefore (s t : Block × Nat) : Prop := s.1.rank < t.1.rank ∨ s.1 = t.1 ∧ s.2 < t.2

/-- Depth-first order: an address comes before those that go on from it, and where two addresses
part, the places decide. -/
def Precedes : Address → Address → Prop := List.Lex StepBefore

theorem StepBefore.asymm {s t : Block × Nat} (h : StepBefore s t) : ¬StepBefore t s := by
  rcases h with hrank | ⟨hblock, hplace⟩
  · rintro (hrank' | ⟨hblock, -⟩)
    · exact Nat.lt_asymm hrank hrank'
    · exact Nat.lt_irrefl _ (hblock ▸ hrank)
  · rintro (hrank | ⟨-, hplace'⟩)
    · exact Nat.lt_irrefl _ (hblock ▸ hrank)
    · exact Nat.lt_asymm hplace hplace'

theorem Precedes.asymm {a b : Address} (h : Precedes a b) : ¬Precedes b a := by
  induction h with
  | nil => exact nofun
  | rel hstep =>
    intro h'
    cases h' with
    | rel hstep' => exact hstep.asymm hstep'
    | cons => exact hstep.asymm hstep
  | cons _ ih =>
    intro h'
    cases h' with
    | rel hstep => exact hstep.asymm hstep
    | cons h' => exact ih h'

theorem Precedes.ne {a b : Address} (h : Precedes a b) : a ≠ b := by
  rintro rfl
  exact h.asymm h

end Address

namespace Node

variable {block : Block} {nodes : List Node} {place : Nat}

/-- The place in the block at which a node of the block is visited. -/
theorem exists_place_of_mem_visitsIn {visit : Address × Node}
    (h : visit ∈ visitsIn block place nodes) :
    ∃ i below, place ≤ i ∧ visit.1 = (block, i) :: below := by
  obtain ⟨i, -, below, -, -, heq⟩ := mem_visitsIn_iff.mp h
  exact ⟨place + i, below, Nat.le_add_right place i, heq⟩

theorem pairwise_visitsIn_of
    (hnodes : ∀ n ∈ nodes, n.visits.Pairwise fun u v => Address.Precedes u.1 v.1) (place : Nat) :
    (visitsIn block place nodes).Pairwise fun u v => Address.Precedes u.1 v.1 := by
  induction nodes generalizing place with
  | nil => exact List.Pairwise.nil
  | cons n rest ih =>
    obtain ⟨hn, hrest⟩ := List.forall_mem_cons.mp hnodes
    refine List.pairwise_append.mpr ⟨List.pairwise_map.mpr ?_, ih hrest (place + 1), ?_⟩
    · exact hn.imp .cons
    · intro u hu v hv
      obtain ⟨visit, -, rfl⟩ := List.mem_map.mp hu
      obtain ⟨i, below, hi, hv⟩ := exists_place_of_mem_visitsIn hv
      rw [hv]
      exact .rel (.inr ⟨rfl, hi⟩)

/-- The nodes of a block are visited before those of a later one. -/
theorem precedes_of_mem_visitsIn {block' : Block} (hrank : block.rank < block'.rank)
    {nodes' : List Node} : ∀ u ∈ visitsIn block 0 nodes, ∀ v ∈ visitsIn block' 0 nodes',
      Address.Precedes u.1 v.1 := by
  intro u hu v hv
  obtain ⟨i, below, -, hu⟩ := exists_place_of_mem_visitsIn hu
  obtain ⟨j, below', -, hv⟩ := exists_place_of_mem_visitsIn hv
  rw [hu, hv]
  exact .rel (.inl hrank)

theorem nil_precedes_of_mem_visitsIn :
    ∀ v ∈ visitsIn block place nodes, Address.Precedes [] v.1 := by
  intro v hv
  obtain ⟨i, below, -, hv⟩ := exists_place_of_mem_visitsIn hv
  rw [hv]
  exact .nil

/-- The nodes of a tree are visited in depth-first order. -/
theorem pairwise_visits (n : Node) :
    n.visits.Pairwise fun u v => Address.Precedes u.1 v.1 := by
  induction n using Node.induct with
  | mk h body thenSteps elseSteps hbody hthen helse =>
    -- The node itself, and then its blocks, each of them before those of a higher rank.
    rw [visits]
    refine List.pairwise_cons.mpr ⟨?_, List.pairwise_append.mpr ⟨List.pairwise_append.mpr
      ⟨pairwise_visitsIn_of hbody 0, pairwise_visitsIn_of hthen 0,
        precedes_of_mem_visitsIn (by decide)⟩, pairwise_visitsIn_of helse 0, ?_⟩⟩
    · rw [List.forall_mem_append, List.forall_mem_append]
      exact ⟨⟨nil_precedes_of_mem_visitsIn, nil_precedes_of_mem_visitsIn⟩,
        nil_precedes_of_mem_visitsIn⟩
    · rw [List.forall_mem_append]
      exact ⟨precedes_of_mem_visitsIn (by decide), precedes_of_mem_visitsIn (by decide)⟩

end Node

theorem Workflow.pairwise_visits (w : Workflow) :
    w.visits.Pairwise fun u v => Address.Precedes u.1 v.1 :=
  Node.pairwise_visitsIn_of (fun n _ => n.pairwise_visits) 0

/-- No address is visited twice. -/
theorem Workflow.nodup_addresses (w : Workflow) : (w.visits.map Prod.fst).Nodup :=
  List.pairwise_map.mpr (w.pairwise_visits.imp Address.Precedes.ne)

/-! ### Reading paths -/

theorem Text.digits?_toDigits (n : Nat) : Text.digits? (Nat.toDigits 10 n) = some n := by
  have hdigits : (Nat.toDigits 10 n).all Char.isDigit = true := List.all_eq_true.mpr fun _ hc =>
    Nat.isDigit_of_mem_toDigits (by decide) (by decide) hc
  have hsome : (Nat.toDigits 10 n).isEmpty = false :=
    List.isEmpty_eq_false_iff.mpr Nat.toDigits_ne_nil
  have hvalue := Nat.ofDigitChars_toDigits (n := n) (b := 10) (by decide) (by decide)
  simp only [Nat.ofDigitChars, Nat.mul_comm 10] at hvalue
  rw [digits?, hdigits, hsome, if_neg (by decide), hvalue]

namespace Block

def all : List Block := [.top, .body, .thenSteps, .elseSteps]

/-- The block of a name. -/
def ofName? (name : String) : Option Block := all.find? fun block => block.name = name

theorem ofName?_name (block : Block) : ofName? block.name = some block := by
  cases block <;> decide

end Block

namespace Address

/-- Reads a place of a block: the name of the block, and a number in brackets. -/
def readSegment? (segment : String) : Option (Block × Nat) :=
  match Text.splitAt '[' segment with
  | [name, place] =>
    if Text.finishesWith "]" place then do
      let block ← Block.ofName? name
      let i ← Text.digits? place.toList.dropLast
      pure (block, i)
    else none
  | _ => none

/-- Reads a path, segment by segment. -/
def ofPath? (path : String) : Option Address := (Text.splitAt '.' path).mapM readSegment?

variable {step : Block × Nat} {address : Address} {c : Char}

/-- Characters that mark where something ends: of a segment, of a path, and of a name. -/
theorem not_mem_name (hc : c = '.' ∨ c = ':' ∨ c = '[') (block : Block) :
    c ∉ block.name.toList := by
  rcases hc with rfl | rfl | rfl
  all_goals cases block <;> decide

theorem not_mem_digits (hc : c.isDigit = false) (i : Nat) : c ∉ (toString i).toList := by
  intro hmem
  rw [Nat.toString_eq_repr, Nat.toList_repr] at hmem
  have hdigit := Nat.isDigit_of_mem_toDigits (by decide) (by decide) hmem
  exact Bool.false_ne_true (hc.symm.trans hdigit)

theorem not_mem_segment (hc : c = '.' ∨ c = ':') (step : Block × Nat) :
    c ∉ (segment step).toList := by
  have hname : c ∉ step.1.name.toList := not_mem_name (hc.imp_right .inl) step.1
  have hdigits : c ∉ (toString step.2).toList :=
    not_mem_digits (by rcases hc with rfl | rfl <;> decide) step.2
  have hbrackets : c ∉ ['['] ∧ c ∉ [']'] := by rcases hc with rfl | rfl <;> decide
  rw [segment, Node.pathAt, String.toList_append, String.toList_append, String.toList_append]
  simp only [List.mem_append, not_or]
  exact ⟨⟨⟨hname, hbrackets.1⟩, hdigits⟩, hbrackets.2⟩

theorem readSegment?_segment (step : Block × Nat) : readSegment? (segment step) = some step := by
  obtain ⟨block, i⟩ := step
  have hplace : '[' ∉ (toString i ++ "]").toList := by
    rw [String.toList_append, List.mem_append, not_or]
    exact ⟨not_mem_digits (by decide) i, by decide⟩
  have hsplit : Text.splitAt '[' (segment (block, i)) = [block.name, toString i ++ "]"] := by
    rw [segment, Node.pathAt, String.append_assoc, Text.splitAt_append rfl,
      Text.splitAt_of_not_mem (not_mem_name (.inr (.inr rfl)) block),
      Text.splitAt_of_not_mem hplace]
    rfl
  have hlist : (toString i ++ "]").toList = Nat.toDigits 10 i ++ [']'] := by
    rw [String.toList_append, Nat.toString_eq_repr, Nat.toList_repr]
    rfl
  have hclosed : Text.finishesWith "]" (toString i ++ "]") = true := by
    rw [Text.finishesWith, hlist, List.reverse_append]
    rfl
  have hread : Text.digits? (toString i ++ "]").toList.dropLast = some i := by
    rw [hlist, List.dropLast_concat, Text.digits?_toDigits]
  rw [readSegment?, hsplit]
  simp only [hclosed, if_true, Block.ofName?_name, hread]
  rfl

theorem splitAt_path (hne : address ≠ []) :
    Text.splitAt '.' (path address) = address.map segment :=
  Text.splitAt_join rfl (List.map_eq_nil_iff.not.mpr hne)
    (List.forall_mem_map.mpr fun step _ => not_mem_segment (.inl rfl) step)

/-- The path of an address is read back. -/
theorem ofPath?_path (hne : address ≠ []) : ofPath? (path address) = some address := by
  have hread : (address.map segment).mapM readSegment? = some address := by
    clear hne
    induction address with
    | nil => rfl
    | cons step rest ih =>
      rw [List.map_cons, List.mapM_cons, readSegment?_segment, ih]
      rfl
  rw [ofPath?, splitAt_path hne, hread]

theorem path_inj {a b : Address} (ha : a ≠ []) (hb : b ≠ []) (h : path a = path b) : a = b :=
  Option.some.inj ((ofPath?_path ha).symm.trans (h ▸ ofPath?_path hb))

theorem colon_not_mem_path (hne : address ≠ []) : ':' ∉ (path address).toList := by
  intro hmem
  have hdot : ':' ≠ '.' := by decide
  obtain ⟨piece, hpiece, hc⟩ := Text.exists_piece_of_mem hmem hdot
  have hsegment : String.ofList piece ∈ Text.splitAt '.' (path address) :=
    List.mem_map_of_mem hpiece
  rw [splitAt_path hne] at hsegment
  obtain ⟨step, -, hstep⟩ := List.mem_map.mp hsegment
  have hnot := not_mem_segment (.inr rfl) step
  rw [hstep, String.toList_ofList] at hnot
  exact hnot hc

end Address

namespace Workflow

variable {w : Workflow} {address : Address} {path : String} {n m : Node}

theorem ne_nil_of_nodeAt? (h : w.nodeAt? address = some n) : address ≠ [] := by
  rintro rfl
  cases h

/-- No two nodes of a workflow have the same path. -/
theorem nodup_paths (w : Workflow) : (w.walk.map Prod.fst).Nodup := by
  have hpaths : w.walk.map Prod.fst = (w.visits.map Prod.fst).map Address.path := by
    rw [walk_eq, List.map_map, List.map_map]
    rfl
  rw [hpaths]
  refine w.nodup_addresses.map_on fun a ha b hb hpath => ?_
  obtain ⟨⟨a, n⟩, hn, rfl⟩ := List.mem_map.mp ha
  obtain ⟨⟨b, m⟩, hm, rfl⟩ := List.mem_map.mp hb
  exact Address.path_inj (ne_nil_of_nodeAt? (mem_visits_iff.mp hn))
    (ne_nil_of_nodeAt? (mem_visits_iff.mp hm)) hpath

/-- A path is that of one node. -/
theorem walk_unique (hn : (path, n) ∈ w.walk) (hm : (path, m) ∈ w.walk) : n = m :=
  congrArg Prod.snd (List.inj_on_of_nodup_map w.nodup_paths hn hm rfl)

end Workflow

end AgentWorkflow
