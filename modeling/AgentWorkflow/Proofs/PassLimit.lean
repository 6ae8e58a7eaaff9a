/-
How often a pass of the program asks the model.

* `Config.maxIterations_pos` — the settings of a file allow one request at least.
* `Workflow.asks_standard` — the standard workflow asks in the nodes of its loop as often as
  the loop goes round, and the loop goes by a limit of its own.
* `Program.passEnd` — how a pass ends, with the record of what it asked for.
* `Program.passEnd_workflow` — a pass through a workflow takes no notice of the limit in the
  settings.
* `Program.KeepsLimit`, `Program.passEnd_keepsLimit` — the limits that a pass keeps, and when
  the limit in the settings is one of them.

Design notes: of what a pass leaves behind only the site goes on, so the world that it ends in,
with the record, is defined here (`Program.run_runPass`).
-/
import AgentWorkflow.CommandLine.Program
import AgentWorkflow.Proofs.Decoding
import AgentWorkflow.Proofs.LoopBounds
import AgentWorkflow.Proofs.Sessions
import AgentWorkflow.Proofs.StandardWorkflow

namespace AgentWorkflow

variable {α β : Type}

/-! ### Settings -/

theorem Outcome.eq_ok_of_within {frame : String} {o : Outcome α} {a : α}
    (h : within frame o = .ok a) : o = .ok a := by
  rcases o with e | a'
  · cases h
  · exact h

namespace Config

/-- Settings that make sense have none of the defects that are looked for. -/
theorem eq_false_of_mem_defects {c : Config} (h : c.check = .ok ()) {defect : Bool × String}
    (hdefect : defect ∈ c.defects) : defect.1 = false := by
  unfold check at h
  rcases hfind : c.defects.find? Prod.fst with _ | ⟨present, text⟩
  · exact Bool.eq_false_iff.mpr (List.find?_eq_none.mp hfind defect hdefect)
  · rw [hfind] at h
    cases h

theorem check_of_load {disk : Disk} {path : String} {c : Config}
    (h : load disk path = .ok c) : c.check = .ok () := by
  unfold load at h
  obtain ⟨found, -, h⟩ := Except.bind_eq_ok h
  obtain ⟨⟨⟩, hcheck, h⟩ := Except.bind_eq_ok h
  rw [← Except.ok.inj h]
  exact Outcome.eq_ok_of_within hcheck

theorem maxIterations_pos {c : Config} (h : c.check = .ok ()) : 0 < c.maxIterations := by
  have hdefect : (c.maxIterations == 0, "max_iterations must be > 0") ∈ c.defects := by
    simp [defects]
  have hzero : (c.maxIterations == 0) = false := eq_false_of_mem_defects h hdefect
  exact Nat.pos_of_ne_zero (by simpa using hzero)

end Config

theorem Project.check_of_load {disk : Disk} {root : String} {path : Option String} {p : Project}
    (h : load disk root path = .ok p) : p.config.check = .ok () := by
  unfold load at h
  obtain ⟨c, hload, h⟩ := Except.bind_eq_ok h
  rw [← Except.ok.inj h]
  exact Config.check_of_load hload

/-! ### Jobs and sessions -/

/-- What is made of the answer of an act on its own is made of it by the act. -/
theorem Act.alone_bind_pure (a : Act α) (f : α → β) :
    (do let x ← Act.alone a; pure (f x)) = Act.alone (do let x ← a; pure (f x)) := by
  funext site
  let w : World := ⟨site, Store.empty, []⟩
  show (Act.alone a >>= fun x => pure (f x)).run site =
    (((a >>= fun x => pure (f x)).run w).1, ((a >>= fun x => pure (f x)).run w).2.site)
  rw [Job.run_bind, Act.run_bind,
    show (Act.alone a).run site = ((a.run w).1, (a.run w).2.site) from rfl]
  rcases a.run w with ⟨e | x, w'⟩
  · rfl
  · rfl

/-! ### The standard workflow -/

namespace Workflow

theorem loops_standard :
    ∀ entry ∈ standard.walk, entry.2.kind = .loop →
      entry.2.head.maxIterationsSetting.bind Store.binding? = none ∧
        entry.2.head.literalLimit = standardLimit := by
  decide

/-- The loop of the standard workflow goes by a limit of its own. -/
theorem loopsWithin_standard (session : Session) :
    standard.LoopsWithin session fun _ => Machine.capped session standardLimit := by
  intro entry hentry hkind store
  obtain ⟨hbinding, hlimit⟩ := loops_standard entry hentry hkind
  have hliteral : entry.2.head.LimitIsLiteral := by
    intro raw hraw
    rwa [hraw] at hbinding
  have hresolved : resolvedLimit entry.2.head store = standardLimit := by
    rw [NodeHead.resolvedLimit_eq hliteral, hlimit]
  exact Nat.le_of_eq (congrArg (Machine.capped session) hresolved)

/-- What may ask in the standard workflow is counted once before the loop, and in the loop as
often as that goes round. -/
theorem budgetList_standard (limit : Nat) (asks : String → Bool) :
    Node.budgetList (fun _ => limit) (fun _ head => (head.mayAsk asks).toNat) [] .top 0
        standard.nodes =
      (standard.nodes.countP fun n => n.head.mayAsk asks) +
        limit * standardRound.countP fun n => n.head.mayAsk asks := by
  have hround : ∀ n ∈ standardRound, n = .mk n.head [] [] [] := by
    unfold standardRound
    simp only [List.forall_mem_cons]
    exact ⟨rfl, rfl, rfl, rfl, fun _ h => absurd h List.not_mem_nil⟩
  have hloop : loopHead.mayAsk asks = false := rfl
  unfold standard
  simp only [Node.budgetList, Node.budget, countP_cons_toNat, List.countP_nil,
    Node.budget_leaf (n := contextNode) rfl, Node.budget_leaf (n := seedNode) rfl,
    Node.budget_leaf (n := contextTurnNode) rfl, Node.budget_leaf (n := instructionNode) rfl,
    Node.budgetList_leaves hround, Node.head, hloop]
  omega

/-- How often the standard workflow may ask, when types stand for plugins by such names. -/
def standardRequests (names : Table String) (rounds : Nat) : Nat :=
  (standard.nodes.countP fun n => n.head.mayAsk (Registry.askingTypes names)) +
    rounds * standardRound.countP fun n => n.head.mayAsk (Registry.askingTypes names)

theorem asks_standard (session : Session) (names : Table String) :
    Step.Asks (standardRequests names (Machine.capped session standardLimit))
      (runDocument session (Registry.ofNames names) standard.toJson).run := by
  intro w
  have hdocument : (Act.ofOutcome (ofJson standard.toJson)).run w = (.ok standard, w) := by
    rw [ofJson_standard, Act.run_ofOutcome]
  have hrun := requests_run_le (loopsWithin_standard session)
    (Registry.asksAt_ofNames session names) w
  rw [budgetList_standard] at hrun
  unfold runDocument
  rw [Act.run_bind_ok hdocument]
  exact hrun

/-- When nothing but its own name stands for the plugin that asks, one node of the standard
workflow asks, and that is in the loop. -/
theorem standardRequests_le {names : Table String}
    (hnames : ∀ type, (type, Plugin.requestName) ∈ names → type = Plugin.requestName)
    (rounds : Nat) : standardRequests names rounds ≤ rounds := by
  have hasks : ∀ n : Node, n.head.mayAsk (Registry.askingTypes names) = true →
      (n.head.type == Plugin.requestName) = true := by
    intro n hn
    unfold NodeHead.mayAsk at hn
    rcases hkind : n.head.kind with _ | _ | type
    · simp [hkind] at hn
    · simp [hkind] at hn
    · simp only [hkind, Registry.askingTypes, decide_eq_true_eq] at hn
      rw [NodeHead.type_of_kind hkind, hnames type hn, beq_self_eq_true]
  have hcount : ∀ nodes : List Node,
      (nodes.countP fun n => n.head.mayAsk (Registry.askingTypes names)) ≤
        nodes.countP fun n => n.head.type == Plugin.requestName :=
    fun nodes => List.countP_mono_left fun n _ => hasks n
  -- Of the types of the standard workflow, one is that name.
  have hnone : (standard.nodes.countP fun n => n.head.type == Plugin.requestName) = 0 := by
    decide
  have hone : (standardRound.countP fun n => n.head.type == Plugin.requestName) = 1 := by
    decide
  calc standardRequests names rounds
      ≤ (standard.nodes.countP fun n => n.head.type == Plugin.requestName) +
          rounds * standardRound.countP fun n => n.head.type == Plugin.requestName :=
        Nat.add_le_add (hcount _) (Nat.mul_le_mul_left rounds (hcount _))
    _ = rounds := by rw [hnone, hone, Nat.zero_add, Nat.mul_one]

end Workflow

/-! ### Projects -/

namespace Project

/-- The table of names that the plugins of a project go by. -/
def typeNames (p : Project) (site : Site) : Table String :=
  ((Registry.loadNames (p.config.pluginMapPath.map p.path)).run site).1

theorem registry_eq (p : Project) (site : Site) :
    (p.registry.run site).1 = Registry.ofNames (p.typeNames site) := rfl

/-- Where neither a run nor the settings name a workflow, the standard one is run. -/
theorem workflowDocument_eq {p : Project} {disk : Disk} {chosen : Option String}
    {document : Json} (hnone : chosen.or p.config.workflowPath = none)
    (h : p.workflowDocument disk chosen = .ok document) :
    document = Workflow.standard.toJson := by
  unfold workflowDocument at h
  rw [hnone] at h
  obtain ⟨found, hfound, h⟩ := Except.bind_eq_ok h
  have hread : Workflow.standard.toJson = found := Except.ok.inj hfound
  dsimp only at h
  -- Whatever comes of the rules, no other document is answered.
  split at h
  · obtain ⟨-, -, h⟩ := Except.bind_eq_ok h
    rw [hread]
    exact (Except.ok.inj h).symm
  · rw [hread]
    exact (Except.ok.inj h).symm

/-- A project with another limit in its settings. -/
def withLimit (p : Project) (limit : Nat) : Project := { p with config.maxIterations := limit }

theorem kit_withLimit (p : Project) (limit : Nat) : (p.withLimit limit).kit = p.kit := rfl

theorem session_withLimit (p : Project) (limit : Nat) :
    (p.withLimit limit).session = p.session := by
  unfold session
  rw [kit_withLimit]
  rfl

end Project

/-! ### Passes -/

namespace CommandLine.Program

variable {p : Project} {registry : Registry} {document : Json} {o : RunOptions}
  {e : Environment}

/-- What a pass does once its session stands. -/
def passAct (p : Project) (registry : Registry) (document : Json) (o : RunOptions)
    (session : Session) : Act ExitCode :=
  if o.direct then do
    let transcript ← Conversation.run session p.config.maxIterations
    pure (if transcript.stop = .limit then .limit else .ok)
  else do
    let report ← Workflow.runDocument session registry document
    pure (if 0 < report.exhaustedLoops then .limit else .ok)

/-- How a pass ends: what it answers, and the world with the record.  Without a session it has
asked for nothing. -/
def passEnd (p : Project) (registry : Registry) (document : Json) (o : RunOptions)
    (e : Environment) (site : Site) : Outcome ExitCode × World :=
  match (p.session o.flags e.value? Console.confirm).run site with
  | (.error f, site) => (.error f, ⟨site, Store.empty, []⟩)
  | (.ok session, site) =>
    (passAct p registry document o session).run ⟨site, Store.empty, []⟩

theorem runPass_eq (p : Project) (registry : Registry) (document : Json) (o : RunOptions)
    (e : Environment) :
    runPass p registry document o e = (do
      let session ← p.session o.flags e.value? Console.confirm
      Act.alone (passAct p registry document o session)) := by
  unfold runPass passAct
  congr 1
  funext session
  split
  · exact Act.alone_bind_pure _ _
  · exact Act.alone_bind_pure _ _

/-- A pass answers what it ends with, and of that world the site goes on. -/
theorem run_runPass (p : Project) (registry : Registry) (document : Json) (o : RunOptions)
    (e : Environment) (site : Site) :
    (runPass p registry document o e).run site =
      ((passEnd p registry document o e site).1,
        (passEnd p registry document o e site).2.site) := by
  rw [runPass_eq, Job.run_bind]
  unfold passEnd
  rcases (p.session o.flags e.value? Console.confirm).run site with ⟨f | session, site'⟩
  · rfl
  · rfl

/-- A pass through a workflow takes no notice of the limit in the settings. -/
theorem passEnd_workflow (hdirect : o.direct = false) (limit : Nat) (site : Site) :
    passEnd (p.withLimit limit) registry document o e site =
      passEnd p registry document o e site := by
  unfold passEnd passAct
  rw [Project.session_withLimit]
  simp only [hdirect, Bool.false_eq_true, if_false]

/-- What every session with the flags of a pass asks for at most, the pass does. -/
theorem requests_passEnd_le {count : Nat}
    (h : ∀ session : Session, session.flags = o.flags →
      Step.Asks count (passAct p registry document o session).run) (site : Site) :
    (passEnd p registry document o e site).2.requests ≤ count := by
  unfold passEnd
  rcases hsession : (p.session o.flags e.value? Console.confirm).run site with
    ⟨f | session, site'⟩
  · exact Nat.zero_le _
  · have hflags := (Project.session_makes hsession).flags
    have hasks := h session hflags ⟨site', Store.empty, []⟩
    rwa [show (World.requests ⟨site', Store.empty, []⟩) = 0 from rfl, Nat.zero_add] at hasks

/-- How often the loop of the standard workflow goes round at most in a pass. -/
def rounds (o : RunOptions) : Nat :=
  if o.flags.once then 1 else Workflow.standardLimit

/-- The limits that a pass keeps. -/
structure KeepsLimit (p : Project) (names : Table String) (o : RunOptions) (w : World) :
    Prop where
  /-- A conversation on its own goes by the limit in the settings. -/
  direct : o.direct = true → w.requests ≤ p.config.maxIterations
  /-- The standard workflow goes by the limit of its loop. -/
  workflow : o.direct = false →
    w.requests ≤ Workflow.standardRequests names (rounds o)
  /-- So the limit in the settings is kept when it is not below the other one. -/
  settings : (∀ type, (type, Plugin.requestName) ∈ names → type = Plugin.requestName) →
    o.direct = true ∨ o.flags.once = true ∨ Workflow.standardLimit ≤ p.config.maxIterations →
    w.requests ≤ p.config.maxIterations

theorem asks_passAct_direct (hdirect : o.direct = true) (hpos : 0 < p.config.maxIterations)
    (session : Session) :
    Step.Asks p.config.maxIterations (passAct p registry document o session).run := by
  unfold passAct
  rw [if_pos hdirect]
  refine (Act.asks_bind (k := 0) (Conversation.asks_run session _) fun _ =>
    Act.asks_pure _).mono ?_
  omega

theorem asks_passAct_workflow (hdirect : o.direct = false) (names : Table String)
    {session : Session} (hflags : session.flags = o.flags) :
    Step.Asks (Workflow.standardRequests names (rounds o))
      (passAct p (Registry.ofNames names) Workflow.standard.toJson o session).run := by
  have hrounds : Machine.capped session Workflow.standardLimit = rounds o := by
    unfold Machine.capped rounds
    rw [hflags]
    rfl
  unfold passAct
  rw [hdirect, ← hrounds]
  exact Act.asks_bind (k := 0) (Workflow.asks_standard session names) fun _ => Act.asks_pure _

/-- The limits that a pass of a project keeps which runs no workflow but the standard one. -/
theorem passEnd_keepsLimit {disk : Disk} {root : String} {path : Option String}
    (hload : Project.load disk root path = .ok p)
    (hstandard : o.workflow.or p.config.workflowPath = none)
    (hdocument : p.workflowDocument disk o.workflow = .ok document) (e : Environment)
    (start site : Site) :
    KeepsLimit p (p.typeNames start) o
      (passEnd p (p.registry.run start).1 document o e site).2 := by
  have hpos : 0 < p.config.maxIterations :=
    Config.maxIterations_pos (Project.check_of_load hload)
  rw [p.registry_eq, Project.workflowDocument_eq hstandard hdocument]
  have hworkflow : o.direct = false → (passEnd p (Registry.ofNames (p.typeNames start))
      Workflow.standard.toJson o e site).2.requests ≤
        Workflow.standardRequests (p.typeNames start) (rounds o) := fun hdirect =>
    requests_passEnd_le (fun _ hflags => asks_passAct_workflow hdirect _ hflags) site
  have hdirect : o.direct = true → (passEnd p (Registry.ofNames (p.typeNames start))
      Workflow.standard.toJson o e site).2.requests ≤ p.config.maxIterations := fun hdirect =>
    requests_passEnd_le (fun session _ => asks_passAct_direct hdirect hpos session) site
  refine ⟨hdirect, hworkflow, fun hnames hlimits => ?_⟩
  by_cases h : o.direct = true
  · exact hdirect h
  calc _ ≤ Workflow.standardRequests (p.typeNames start) (rounds o) :=
        hworkflow (Bool.eq_false_iff.mpr h)
    _ ≤ rounds o := Workflow.standardRequests_le hnames _
    _ ≤ p.config.maxIterations := by
        unfold rounds
        split
        · exact hpos
        · next honce => exact (hlimits.resolve_left h).resolve_left honce

/-- A pass with the standard settings, which makes ten requests at most. -/
theorem passEnd_keepsLimit_standard :
    let p : Project := ⟨"/", Config.standard⟩
    let o : RunOptions := ⟨false, true, false, false, none, none, false⟩
    let site : Site := Site.ofDisk default
    Project.load site.disk "/" none = .ok p ∧
      p.workflowDocument site.disk o.workflow = .ok Workflow.standard.toJson ∧
      (passEnd p (p.registry.run site).1 Workflow.standard.toJson o [("GITHUB_TOKEN", "t")]
        site).2.requests ≤ 10 := by
  intro p o site
  have hload : Project.load site.disk "/" none = .ok p := rfl
  have hdocument : p.workflowDocument site.disk o.workflow = .ok Workflow.standard.toJson := rfl
  have hnames : ∀ type, (type, Plugin.requestName) ∈ p.typeNames site →
      type = Plugin.requestName := by
    intro type htype
    obtain ⟨name, -, hname⟩ := List.mem_map.mp htype
    cases hname
    rfl
  have hkeeps := passEnd_keepsLimit hload rfl hdocument [("GITHUB_TOKEN", "t")] site site
  exact ⟨hload, hdocument, hkeeps.settings hnames (.inr (.inr (Nat.le_refl 10)))⟩

/-- With a limit of one in the settings, the standard workflow makes a second request when the
answer to the first one calls a tool. -/
theorem passAct_exceeds :
    let settings := Text.encode "max_iterations = 1\n"
    let o : RunOptions := ⟨false, true, false, false, none, none, false⟩
    let session := Rehearsal.session o.flags ⟨[]⟩ [("echo", .echoes)]
    let replies := [
      Reply.message (Message.requesting [ToolCall.new "1" "echo" ""]),
      Reply.message (Message.assistant "done")]
    let site : Site := { Site.ofDisk ⟨[], [(["autopilot.toml"], .file settings)]⟩ with
      rehearsal := ⟨replies, [], 0⟩ }
    ∃ p, Project.load site.disk "/" none = .ok p ∧ p.config.maxIterations = 1 ∧
      ((passAct p (p.registry.run site).1 Workflow.standard.toJson o session).run
        ⟨site, Store.empty, []⟩).2.requests = 2 := by
  intro settings o session replies site
  have hpass : (Project.load site.disk "/" none).toOption.map (fun p =>
      (p.config.maxIterations, ((passAct p (p.registry.run site).1 Workflow.standard.toJson o
        session).run ⟨site, Store.empty, []⟩).2.requests)) = some (1, 2) := by
    decide +kernel
  rcases hload : Project.load site.disk "/" none with f | p
  · rw [hload] at hpass
    cases hpass
  · rw [hload] at hpass
    obtain ⟨hlimit, hrequests⟩ := Prod.mk.inj (Option.some.inj hpass)
    exact ⟨p, rfl, hlimit, hrequests⟩

end CommandLine.Program

end AgentWorkflow
