/-
Who is told of writing over what another node wrote.

* `Plugin.ChangesBy` — what a plugin does to the store on its own, and
  `Registry.exists_changesBy_ofNames`, that the plugins there are do it on behalf of no node.
* `Machine.Alteration` — a change of the store and the node where it was made;
  `Machine.State.history`, those of a run so far.
* `Machine.Alteration.author?` — the node that the value under a key was put on behalf of.
* `Workflow.Reaches.store_eq` — the store is what the history makes of an empty one.
* `Workflow.NotedAs` — what is noted of a write, in view of the history before it, and
  `Workflow.overwrites_noted`, that just this is noted of each result that a node passes through.
* `Workflow.overwrite_unnoted` — nodes that are called alike write over each other unnoted.

Design notes: a store knows a node by what it is called, a run by where it stands.  The history
tells of every change where it was made, so the two can be compared: what is noted goes by the
former, and between nodes that are called differently that is as good as the latter.
-/
import AgentWorkflow.Proofs.FailFast
import AgentWorkflow.Proofs.StoreHistory
import AgentWorkflow.Rehearsal

namespace AgentWorkflow

open Machine

/-! ### What plugins do to the store on their own -/

/-- What a plugin does to the store on its own, whether or not it fails. -/
def Plugin.ChangesBy (session : Session) (p : Plugin) (own : Inputs → List Store.Change) : Prop :=
  ∀ inputs w, ((p session inputs).run w).2.store = w.store.replay (own inputs)

/-- What the plugins of a registry do to the store on their own, by their types.  They do it on
behalf of no node. -/
structure Registry.ChangesBy (session : Session) (registry : Registry)
    (own : String → Inputs → List Store.Change) : Prop where
  plugins : ∀ type plugin, Table.get? registry type = some plugin →
    plugin.ChangesBy session (own type)
  nameless : ∀ type inputs, ∀ c ∈ own type inputs, c.writer? = none

namespace Plugin

/-- What the plugins there are do to the store on their own, by their names. -/
def ownChanges (name : String) (inputs : Inputs) : List Store.Change :=
  if name = "var.set" then
    (words? inputs "key").toList.map fun key => .insert key (input inputs "value")
  else if name = "var.delete" then (words? inputs "key").toList.map .erase
  else []

theorem writer?_of_mem_ownChanges {name : String} {inputs : Inputs} {c : Store.Change}
    (hc : c ∈ ownChanges name inputs) : c.writer? = none := by
  unfold ownChanges at hc
  split at hc
  · obtain ⟨key, -, rfl⟩ := List.mem_map.mp hc
    rfl
  · split at hc
    · obtain ⟨key, -, rfl⟩ := List.mem_map.mp hc
      rfl
    · exact absurd hc List.not_mem_nil

theorem changesBy_of_mem_builtin (session : Session) {name : String} {p : Plugin}
    (hentry : (name, p) ∈ builtin) : p.ChangesBy session (ownChanges name) := by
  have hget : Table.get? builtin name = some p := Table.get?_of_mem (by decide) hentry
  intro inputs w
  by_cases hset : name = "var.set"
  · subst hset
    obtain rfl : setVariable = p := Option.some.inj hget
    unfold ownChanges setVariable
    rcases words? inputs "key" with _ | key
    · rfl
    · rfl
  by_cases hdelete : name = "var.delete"
  · subst hdelete
    obtain rfl : deleteVariable = p := Option.some.inj hget
    unfold ownChanges deleteVariable
    rcases words? inputs "key" with _ | key
    · rfl
    · rfl
  · -- The other plugins leave the store alone.
    have hkeeps : p.KeepsStore session :=
      keepsStore_of_mem_builtin hentry (by simp [storeTypes, hset, hdelete])
    unfold ownChanges
    rw [if_neg hset, if_neg hdelete]
    exact hkeeps inputs w

end Plugin

namespace Registry

theorem changesBy_builtin (session : Session) :
    builtin.ChangesBy session Plugin.ownChanges where
  plugins _ _ hget := Plugin.changesBy_of_mem_builtin session (Table.mem_of_get? hget)
  nameless _ _ _ hc := Plugin.writer?_of_mem_ownChanges hc

theorem exists_changesBy_ofNames (session : Session) (names : Table String) :
    ∃ own, (ofNames names).ChangesBy session own := by
  have htype : ∀ type, ∃ name, ∀ plugin, Table.get? (ofNames names) type = some plugin →
      plugin.ChangesBy session (Plugin.ownChanges name) := by
    intro type
    rcases hget : Table.get? (ofNames names) type with _ | plugin
    · exact ⟨type, fun _ h => nomatch h⟩
    · obtain ⟨name, -, hmem⟩ := mem_builtin_of_get?_ofNames hget
      refine ⟨name, fun plugin' h => ?_⟩
      rw [← Option.some.inj h]
      exact Plugin.changesBy_of_mem_builtin session hmem
  choose nameOf hnameOf using htype
  exact ⟨fun type => Plugin.ownChanges (nameOf type), hnameOf,
    fun _ _ _ hc => Plugin.writer?_of_mem_ownChanges hc⟩

end Registry

/-- The changes that put entries on behalf of a node. -/
def Store.Change.puts (writer : String) (entries : List (String × Json)) : List Store.Change :=
  entries.map fun entry => .insertFrom writer entry.1 entry.2

theorem Store.put_eq_replay (s : Store) (writer : String) (entries : List (String × Json)) :
    s.put writer entries = s.replay (Change.puts writer entries) := by
  induction entries generalizing s with
  | nil => rfl
  | cons entry rest ih => exact ih _

/-! ### The history of a run -/

/-- What is done to the store where a run comes to a node: by the plugin, and then by the node. -/
def Visit.changes (own : String → Inputs → List Store.Change) (v : Visit) : List Store.Change :=
  (match v.call? with
    | some (type, inputs) => own type inputs
    | none => []) ++
  Store.Change.puts v.head.label v.writes

namespace Machine

/-- A change of the store and the node where it was made. -/
structure Alteration where
  address : Address
  change : Store.Change

namespace Alteration

/-- Changes that were made at one node. -/
def madeAt (address : Address) (changes : List Store.Change) : List Alteration :=
  changes.map fun c => ⟨address, c⟩

theorem map_change_madeAt (address : Address) (changes : List Store.Change) :
    (madeAt address changes).map change = changes := by
  unfold madeAt
  rw [List.map_map]
  exact List.map_id changes

/-- The latest change of a key, and where it was made. -/
def latest? (key : String) (history : List Alteration) : Option Alteration :=
  (history.filter fun a => a.change.key = key).getLast?

theorem map_change_latest? (key : String) (history : List Alteration) :
    (latest? key history).map change = Store.latest? key (history.map change) := by
  unfold latest? Store.latest?
  rw [List.filter_map, List.getLast?_map]
  rfl

/-- The node that the value under a key was put on behalf of: none when the key is unset, or when
the value was put by nobody in particular. -/
def author? (key : String) (history : List Alteration) : Option Address :=
  (latest? key history).bind fun a => a.change.writer?.map fun _ => a.address

/-- The changes that were made on behalf of nodes were made at nodes of a workflow that are called
so. -/
def Signed (w : Workflow) (history : List Alteration) : Prop :=
  ∀ a ∈ history, ∀ label, a.change.writer? = some label →
    ∃ n, w.nodeAt? a.address = some n ∧ n.label = label

theorem Signed.append {w : Workflow} {history more : List Alteration} (h : Signed w history)
    (hmore : Signed w more) : Signed w (history ++ more) :=
  List.forall_mem_append.mpr ⟨h, hmore⟩

theorem writer?_of_author?_eq_none {history : List Alteration} {key : String}
    (h : author? key history = none) :
    (Store.empty.replay (history.map change)).writer? key = none := by
  rw [Store.writer?_replay_empty, ← map_change_latest?]
  unfold author? at h
  rcases hlatest : latest? key history with _ | a
  · rfl
  · rw [hlatest] at h
    exact Option.map_eq_none_iff.mp h

/-- The writer that a store knows of a key is what the author is called. -/
theorem writer?_of_author? {w : Workflow} {history : List Alteration} {key : String}
    {address : Address} (hsigned : Signed w history) (h : author? key history = some address) :
    ∃ n, w.nodeAt? address = some n ∧
      (Store.empty.replay (history.map change)).writer? key = some n.label := by
  rw [Store.writer?_replay_empty, ← map_change_latest?]
  obtain ⟨a, hlatest, ha⟩ := Option.bind_eq_some_iff.mp h
  obtain ⟨label, hlabel, rfl⟩ := Option.map_eq_some_iff.mp ha
  have hmem : a ∈ history := List.mem_of_mem_filter (List.mem_of_getLast? hlatest)
  obtain ⟨n, hn, rfl⟩ := hsigned a hmem label hlabel
  refine ⟨n, hn, ?_⟩
  rw [hlatest]
  exact hlabel

end Alteration

open Alteration

/-- What was done to the store in a run so far, and where. -/
def State.history (own : String → Inputs → List Store.Change) (s : State) : List Alteration :=
  s.visits.flatMap fun v => madeAt v.address (v.changes own)

section

variable {session : Session} {registry : Registry} {own : String → Inputs → List Store.Change}
  {w : Workflow} {world : World}

/-- Where a run comes to a node, its plugin and the node change the store. -/
theorem Meets.store_eq {address : Address} {n : Node} {entry : Nat} {report : Report}
    {v v' : World} {fate : Fate} {tasks : List Task} {outcome : Outcome Report}
    (h : Meets session registry address n entry report v fate tasks outcome v')
    (hown : registry.ChangesBy session own) :
    v'.store = v.store.replay (Visit.changes own ⟨address, n.head, v.store, fate⟩) := by
  cases h with
  | disabled | unmet | unregistered => rfl
  | entered _ _ hlimit =>
    obtain ⟨site, heq, -⟩ := Workflow.loopLimit_eq n.head v.store v
    rw [heq] at hlimit
    cases hlimit
    rfl
  | decided _ _ hdecided =>
    obtain ⟨-, rfl⟩ := Workflow.decideBranch_ok hdecided
    exact Store.put_eq_replay _ _ _
  | undecided _ _ hdecided =>
    obtain ⟨rfl, -⟩ := Workflow.decideBranch_error hdecided
    rfl
  | @called type plugin result left _ _ hkind hget hrun hwrite =>
    obtain ⟨site, hwrites, -⟩ := Workflow.run_writeResults n.head result.outputs left
    rw [hwrites] at hwrite
    cases hwrite
    have hleft := hown.plugins type plugin hget (v.store.resolveInputs n.head.inputs)
      (v.called type (v.store.resolveInputs n.head.inputs))
    rw [hrun] at hleft
    show left.store.put n.head.label (n.head.entries result.outputs) = _
    rw [show left.store = _ from hleft, Store.put_eq_replay, ← NodeHead.type_of_kind hkind]
    exact (Store.replay_append _ _ _).symm
  | @failed type plugin f _ _ hkind hget hrun =>
    have hleft := hown.plugins type plugin hget (v.store.resolveInputs n.head.inputs)
      (v.called type (v.store.resolveInputs n.head.inputs))
    rw [hrun] at hleft
    rw [show v'.store = _ from hleft, ← NodeHead.type_of_kind hkind]
    exact congrArg v.store.replay (List.append_nil _).symm

theorem Meets.site_of_decided {address : Address} {n : Node} {entry : Nat} {report : Report}
    {v v' : World} {taken : Bool} {tasks : List Task} {outcome : Outcome Report}
    (h : Meets session registry address n entry report v (.decided taken) tasks outcome v') :
    v'.site = v.site := by
  cases h with
  | decided _ _ hdecided =>
    obtain ⟨-, rfl⟩ := Workflow.decideBranch_ok hdecided
    rfl

theorem Moves.store_eq {s s' : State} (h : Moves session registry s s')
    (hown : registry.ChangesBy session own)
    (hs : s.world.store = Store.empty.replay ((s.history own).map change)) :
    s'.world.store = Store.empty.replay ((s'.history own).map change) := by
  rcases h.visit_or_turn with ⟨_, _, _, _, _, -, -, h, hvisits, -⟩ | hturned
  · rw [State.history, hvisits, List.flatMap_append, List.flatMap_singleton, List.map_append,
      map_change_madeAt, Store.replay_append, h.store_eq hown]
    exact congrArg (fun store : Store => store.replay (Visit.changes own _)) hs
  · rw [State.history, hturned.visits, hturned.store]
    exact hs

end

end Machine

namespace Workflow

open Machine.Alteration

section

variable {session : Session} {registry : Registry} {own : String → Inputs → List Store.Change}
  {w : Workflow} {world : World} {s : Machine.State}

/-- The store is at any time what the history of the run makes of an empty one. -/
theorem Reaches.store_eq (h : w.Reaches session registry world s)
    (hown : registry.ChangesBy session own) :
    s.world.store = Store.empty.replay ((s.history own).map change) :=
  h.invariant (I := fun s => s.world.store = Store.empty.replay ((s.history own).map change))
    rfl fun _ _ _ hmove hs => hmove.store_eq hown hs

/-- What plugins do on their own is signed by no node, and what a node writes by itself. -/
theorem signed_madeAt (hown : registry.ChangesBy session own) {address : Address} {n : Node}
    (hn : w.nodeAt? address = some n) (type : String) (inputs : Inputs)
    (entries : List (String × Json)) :
    Signed w (madeAt address (own type inputs ++ Store.Change.puts n.label entries)) := by
  intro a ha label hlabel
  obtain ⟨c, hc, rfl⟩ := List.mem_map.mp ha
  refine ⟨n, hn, ?_⟩
  rcases List.mem_append.mp hc with hc | hc
  · rw [show c.writer? = none from hown.nameless type inputs c hc] at hlabel
    cases hlabel
  · obtain ⟨entry, -, rfl⟩ := List.mem_map.mp hc
    exact Option.some.inj hlabel

theorem Reaches.signed (h : w.Reaches session registry world s)
    (hown : registry.ChangesBy session own) : Signed w (s.history own) := by
  intro a ha
  obtain ⟨v, hv, ha⟩ := List.mem_flatMap.mp ha
  obtain ⟨n, hn, hhead⟩ := h.placed.visits v hv
  have hlabel : v.head.label = n.label := congrArg NodeHead.label hhead.symm
  unfold Visit.changes at ha
  rw [hlabel] at ha
  split at ha
  · exact signed_madeAt hown hn _ _ _ a ha
  · -- No plugin was called there.
    refine signed_madeAt hown hn "" [] v.writes a ?_
    unfold madeAt at ha ⊢
    rw [List.map_append]
    exact List.mem_append_right _ ha

end

/-! ### What is noted of writes -/

theorem length_passNotes (writer : String) (s : Store) (results : List (String × Json)) :
    (passNotes writer s results).length = results.length := by
  induction results generalizing s with
  | nil => rfl
  | cons entry rest ih => exact congrArg (· + 1) (ih _)

/-- A write is noted when the store knows another writer of the key, after the writes before it. -/
theorem getElem?_passNotes (writer : String) (s : Store) (results : List (String × Json))
    (i : Nat) :
    (passNotes writer s results)[i]? = results[i]?.map fun entry =>
      ((s.put writer (results.take i)).otherWriter writer entry.1).map
        (overwriteNote writer entry.1) := by
  induction results generalizing s i with
  | nil => rfl
  | cons entry rest ih =>
    cases i with
    | zero => rfl
    | succ i =>
      show (passNotes writer (s.insertFrom writer entry.1 entry.2).2 rest)[i]? = _
      rw [ih]
      rfl

/-- What is noted of a write to a key by a node, in view of all that was done to the store before
it.  No note is taken of a key that nobody in particular has put, or the node itself; over what
another node has put a note is taken that names both, unless the two are called alike. -/
structure NotedAs (w : Workflow) (history : List Alteration) (address : Address) (n : Node)
    (key : String) (note : Option Note) : Prop where
  unclaimed : author? key history = none → note = none
  own : author? key history = some address → note = none
  another : ∀ other, author? key history = some other → ∃ m, w.nodeAt? other = some m ∧
    (m.label = n.label → note = none) ∧
    (m.label ≠ n.label → note = some (overwriteNote n.label key m.label))

theorem notedAs_otherWriter {w : Workflow} {history : List Alteration} {address : Address}
    {n : Node} (hn : w.nodeAt? address = some n) (hsigned : Signed w history) (key : String) :
    w.NotedAs history address n key
      (((Store.empty.replay (history.map change)).otherWriter n.label key).map
        (overwriteNote n.label key)) := by
  refine ⟨fun hnone => ?_, fun hself => ?_, fun other hother => ?_⟩
  · unfold Store.otherWriter
    rw [writer?_of_author?_eq_none hnone]
    rfl
  · obtain ⟨m, hm, hwriter⟩ := writer?_of_author? hsigned hself
    obtain rfl : n = m := Option.some.inj (hn.symm.trans hm)
    unfold Store.otherWriter
    rw [hwriter]
    simp
  · obtain ⟨m, hm, hwriter⟩ := writer?_of_author? hsigned hother
    unfold Store.otherWriter
    rw [hwriter]
    exact ⟨m, hm, fun heq => by simp [heq], fun hne => by simp [hne]⟩

/-- What is due of the results of a node in view of a history is what is noted of them. -/
theorem notedAs_passNotes {w : Workflow} {history : List Alteration} {address : Address}
    {n : Node} {own : List Store.Change} {results : List (String × Json)} {s : Store}
    (hn : w.nodeAt? address = some n)
    (hsigned : ∀ entries,
      Signed w (history ++ madeAt address (own ++ Store.Change.puts n.label entries)))
    (hs : s = (Store.empty.replay (history.map change)).replay own) {i : Nat} {key : String}
    {value : Json} (hentry : results[i]? = some (key, value)) :
    ∃ note, (passNotes n.label s results)[i]? = some note ∧
      w.NotedAs (history ++ madeAt address (own ++ Store.Change.puts n.label (results.take i)))
        address n key note := by
  rw [getElem?_passNotes, hentry]
  refine ⟨_, rfl, ?_⟩
  have hbefore : s.put n.label (results.take i) =
      Store.empty.replay ((history ++ madeAt address
        (own ++ Store.Change.puts n.label (results.take i))).map change) := by
    rw [Store.put_eq_replay, hs, List.map_append, map_change_madeAt, Store.replay_append,
      Store.replay_append]
  rw [hbefore]
  exact notedAs_otherWriter hn (hsigned _) key

/-- The plugins there are change the store on their own on behalf of no node.  With such plugins,
when a branch has been decided no note is taken of where it puts the decision.  Whenever a plugin
node has come to write what its plugin answered, the notes that are taken of it are these: none,
when it has a map of outputs, and otherwise for each result in order the one that is due in view of
all that was done to the store before that write. -/
theorem overwrites_noted (session : Session) :
    (∀ names, ∃ own, (Registry.ofNames names).ChangesBy session own) ∧
    ∀ (registry : Registry) own, registry.ChangesBy session own →
      ∀ (w : Workflow) world s s' address n rest, w.Reaches session registry world s →
        Moves session registry s s' → s.agenda = .visit address n :: rest →
      (∀ taken, s'.visits = s.visits ++ [⟨address, n.head, s.world.store, .decided taken⟩] →
        s'.world.site = s.world.site) ∧
      ∀ result, s'.visits = s.visits ++ [⟨address, n.head, s.world.store, .called result⟩] →
        let inputs := s.world.store.resolveInputs n.head.inputs
        ∃ plugin left notes,
          Table.get? registry n.head.type = some plugin ∧
          (plugin session inputs).run (s.world.called n.head.type inputs) = (.ok result, left) ∧
          s'.world.site = left.site.noting (List.reduceOption notes) ∧
          (n.head.outputs ≠ none → notes = []) ∧
          (n.head.outputs = none → notes.length = result.outputs.length ∧
            ∀ i key value, result.outputs[i]? = some (key, value) →
              ∃ note, notes[i]? = some note ∧
                w.NotedAs
                  (s.history own ++ madeAt address (own n.head.type inputs ++
                    Store.Change.puts n.label (result.outputs.take i)))
                  address n key note) := by
  refine ⟨Registry.exists_changesBy_ofNames session, ?_⟩
  intro registry own hown w world s s' address n rest hreaches hmove hnext
  have hn : w.nodeAt? address = some n :=
    hreaches.placed.tasks (.visit address n) (hnext ▸ List.mem_cons_self)
  obtain ⟨report, fate, tasks, hmeets, hvisits⟩ := hmove.meets hnext
  refine ⟨fun taken hdecided => ?_, fun result hcalled => ?_⟩
  · obtain rfl : fate = .decided taken := by
      have heq := List.append_cancel_left (hvisits.symm.trans hdecided)
      simpa using heq
    exact hmeets.site_of_decided
  obtain rfl : fate = .called result := by
    have heq := List.append_cancel_left (hvisits.symm.trans hcalled)
    simpa using heq
  intro inputs
  generalize s'.outcome = outcome at hmeets
  generalize s'.world = v' at hmeets ⊢
  cases hmeets with
  | @called type plugin _ left _ _ hkind hget hrun hwrite =>
    obtain rfl : n.head.type = type := NodeHead.type_of_kind hkind
    rw [run_writeResults_noted] at hwrite
    cases hwrite
    refine ⟨plugin, left, resultNotes n.head left.store result.outputs, hget, hrun, rfl,
      fun hmapped => ?_, fun hplain => ?_⟩
    · unfold resultNotes
      obtain ⟨outputs, houtputs⟩ := Option.ne_none_iff_exists'.mp hmapped
      rw [houtputs]
    · have hnotes : resultNotes n.head left.store result.outputs =
          passNotes n.label left.store result.outputs := by
        unfold resultNotes
        rw [hplain]
        rfl
      -- The store is that of the history, and then the plugin has changed it.
      have hleft := hown.plugins _ plugin hget inputs (s.world.called n.head.type inputs)
      rw [hrun] at hleft
      have hstore : left.store =
          (Store.empty.replay ((s.history own).map change)).replay (own n.head.type inputs) := by
        rw [← hreaches.store_eq hown]
        exact hleft
      rw [hnotes]
      refine ⟨length_passNotes _ _ _, fun i key value hentry => ?_⟩
      exact notedAs_passNotes hn
        (fun entries => (hreaches.signed hown).append (signed_madeAt hown hn _ _ entries))
        hstore hentry

/-! ### Two nodes that negate -/

/-- A node that negates a value and passes the result through. -/
def negation (id : Option String) (value : Bool) : Node :=
  .mk { type := "utils.not", id := id, inputs := [("value", .bool value)] } [] [] []

/-- The world that a node leaves that negates. -/
def negated (id : Option String) (value : Bool) (w : World) : World :=
  ⟨w.site.noting (passNotes (negation id value).label w.store
      [("result", .bool !value)]).reduceOption,
    w.store.put (negation id value).label [("result", .bool !value)],
    w.record ++ [.called "utils.not" [("value", .bool value)]]⟩

theorem meets_negation (session : Session) (id : Option String) (value : Bool) (address : Address)
    (entry : Nat) (report : Report) (w : World) :
    Meets session Registry.builtin address (negation id value) entry report w
      (.called (Plugin.result "result" (.bool !value))) [] (.ok report.execute)
      (negated id value w) :=
  @Meets.called session Registry.builtin address (negation id value) entry report w "utils.not"
    _ (Plugin.result "result" (.bool !value)) (w.called "utils.not" [("value", .bool value)]) _
    ⟨rfl, rfl⟩ rfl rfl rfl (run_writeResults_noted _ _ _)

/-- A run of two nodes that negate comes to the second one when the first one has put its result,
and there the second one puts its own. -/
theorem reaches_negations (session : Session) (id id' : Option String) (value value' : Bool)
    (world : World) :
    let w : Workflow := ⟨none, [negation id value, negation id' value']⟩
    let first := negated id value (w.opened Registry.builtin world)
    ∃ s s', w.Reaches session Registry.builtin world s ∧ Moves session Registry.builtin s s' ∧
      s.agenda = [.visit [(.top, 1)] (negation id' value')] ∧
      s.visits = [⟨[(.top, 0)], (negation id value).head, Store.empty,
        .called (Plugin.result "result" (.bool !value))⟩] ∧
      s'.visits = s.visits ++ [⟨[(.top, 1)], (negation id' value').head, s.world.store,
        .called (Plugin.result "result" (.bool !value'))⟩] ∧
      s.world = first ∧ s'.world = negated id' value' first :=
  ⟨_, _, .single (.visit (meets_negation session id value _ _ _ _)),
    .visit (meets_negation session id' value' _ _ _ _), rfl, rfl, rfl, rfl, rfl⟩

/-- Two nodes that negate and have no names are both called by their type, and the second one puts
its result over that of the first one unnoted. -/
theorem overwrite_unnoted :
    let w : Workflow := ⟨none, [negation none true, negation none false]⟩
    let world : World := ⟨Site.ofDisk default, Store.empty, []⟩
    let session := Rehearsal.session ⟨false, false, false⟩ ⟨[]⟩ []
    ∃ s s', w.Reaches session Registry.builtin world s ∧ Moves session Registry.builtin s s' ∧
      s.agenda = [.visit [(.top, 1)] (negation none false)] ∧
      (negation none false).head.outputs = none ∧
      s'.visits = s.visits ++ [⟨[(.top, 1)], (negation none false).head, s.world.store,
        .called (Plugin.result "result" (.bool true))⟩] ∧
      author? "result" (s.history Plugin.ownChanges) = some [(.top, 0)] ∧
      s'.world.site.notes = [] := by
  intro w world session
  obtain ⟨s, s', hreaches, hmove, hagenda, hs, hs', hworld, hworld'⟩ :=
    reaches_negations session none none true false world
  refine ⟨s, s', hreaches, hmove, hagenda, rfl, hs', ?_, ?_⟩
  · unfold Machine.State.history
    rw [hs]
    rfl
  · rw [hworld']
    rfl

/-- Two nodes that negate and have different names: the second one puts its result over that of
the first one, and a note of it is taken. -/
theorem overwrites_noted_named :
    let w : Workflow := ⟨none, [negation (some "first") true, negation (some "second") false]⟩
    let world : World := ⟨Site.ofDisk default, Store.empty, []⟩
    let session := Rehearsal.session ⟨false, false, false⟩ ⟨[]⟩ []
    ∃ s s', w.Reaches session Registry.builtin world s ∧ Moves session Registry.builtin s s' ∧
      author? "result" (s.history Plugin.ownChanges) = some [(.top, 0)] ∧
      overwriteNote "second" "result" "first" ∈ s'.world.site.notes := by
  intro w world session
  obtain ⟨s, s', hreaches, hmove, hagenda, hs, hs', hworld, hworld'⟩ :=
    reaches_negations session (some "first") (some "second") true false world
  have hauthor : author? "result" (s.history Plugin.ownChanges) = some [(.top, 0)] := by
    unfold Machine.State.history
    rw [hs]
    rfl
  refine ⟨s, s', hreaches, hmove, hauthor, ?_⟩
  obtain ⟨-, hcalled⟩ :=
    (overwrites_noted session).2 Registry.builtin Plugin.ownChanges
      (Registry.changesBy_builtin session) w world s s' _ _ _ hreaches hmove hagenda
  obtain ⟨plugin, left, notes, -, -, hsite, -, hnotes⟩ := hcalled _ hs'
  obtain ⟨note, hnote, hdue⟩ := (hnotes rfl).2 0 "result" (.bool true) rfl
  -- Before its first result neither the plugin nor the node has done anything to the store.
  have hbefore : author? "result" (s.history Plugin.ownChanges ++ []) = some [(.top, 0)] := by
    rw [List.append_nil]
    exact hauthor
  obtain ⟨m, hm, -, hdiffers⟩ := hdue.another _ hbefore
  obtain rfl : negation (some "first") true = m := Option.some.inj hm
  rw [hdiffers (by decide)] at hnote
  rw [hsite]
  exact List.mem_append_right _ (List.reduceOption_mem_iff.mpr (List.mem_of_getElem? hnote))

end Workflow
end AgentWorkflow
